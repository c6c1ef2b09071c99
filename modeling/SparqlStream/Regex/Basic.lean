import SparqlStream.Unicode.Property

/-!
# Regular expressions

Regular expressions over characters, with conditions on the surroundings of a position, and the
search for a match anywhere in a text.

The search reads the text once.  It keeps the expressions that the rest of the text would have to
match for a match that has already begun: reading a character replaces each of them by its
partial derivatives.  A match is found as soon as one of them accepts the empty text at the
current position.  Whether an expression accepts the empty text depends on the characters on both
sides of the position, so both functions take them as an argument.

The sets of characters in an expression are given by anything that tells them apart.  The search
numbers them, because the expressions that it keeps are often compared.
-/

namespace SparqlStream

/-! ## Conditions on a position -/

/-- The characters before and after a position, where there are any. -/
structure Surroundings where
  before : Option Char
  after : Option Char

/-- A condition on a position. -/
inductive Look where
  | textStart
  | textEnd
  | lineStart
  | lineEnd
  /-- Like `lineStart` and `lineEnd`, but a carriage return ends a line, too. -/
  | returnStart
  | returnEnd
  | wordBoundary (ascii : Bool)
  | notWordBoundary (ascii : Bool)
  | wordStart (ascii : Bool)
  | wordEnd (ascii : Bool)
  | wordStartHalf (ascii : Bool)
  | wordEndHalf (ascii : Bool)
  deriving DecidableEq, Repr

namespace Look

/-- Whether there is a word character. -/
def isWord (ascii : Bool) : Option Char → Bool
  | none => false
  | some c => if ascii then c.isAlphanum || c == '_' else Unicode.word.contains c

/-- Whether the condition holds between two characters. -/
def holds (s : Surroundings) : Look → Bool
  | textStart => s.before.isNone
  | textEnd => s.after.isNone
  | lineStart => s.before.isNone || s.before == some '\n'
  | lineEnd => s.after.isNone || s.after == some '\n'
  | returnStart =>
    s.before.isNone || s.before == some '\n' || (s.before == some '\r' && s.after != some '\n')
  | returnEnd =>
    s.after.isNone || s.after == some '\r' || (s.after == some '\n' && s.before != some '\r')
  | wordBoundary a => isWord a s.before != isWord a s.after
  | notWordBoundary a => isWord a s.before == isWord a s.after
  | wordStart a => !isWord a s.before && isWord a s.after
  | wordEnd a => isWord a s.before && !isWord a s.after
  | wordStartHalf a => !isWord a s.before
  | wordEndHalf a => !isWord a s.after

end Look

/-! ## Expressions -/

/-- A regular expression over sets of characters.  `rep least most r` repeats `r`; `most` is
missing if there is no bound.  A group matches what its inside matches. -/
inductive Regex (σ : Type) where
  | empty
  | look (condition : Look)
  | one (set : σ)
  | group (r : Regex σ)
  | cat (a b : Regex σ)
  | alt (a b : Regex σ)
  | rep (least : Nat) (most : Option Nat) (r : Regex σ)
  deriving DecidableEq, Repr, Inhabited

namespace Regex

variable {σ : Type}

/-- Whether the expression accepts the empty text at a position. -/
def nullable (s : Surroundings) : Regex σ → Bool
  | empty => true
  | look l => l.holds s
  | one _ => false
  | group r => r.nullable s
  | cat a b => a.nullable s && b.nullable s
  | alt a b => a.nullable s || b.nullable s
  | rep least _ r => least == 0 || r.nullable s

/-- What follows an expression that has been read up to some rest. -/
def andThen : Regex σ → Regex σ → Regex σ
  | empty, b => b
  | a, b => cat a b

/-- What remains to be matched after a character that stands after the position and belongs to some
of the sets: one expression for each way in which it can be read.

A repetition whose body accepts the empty text here may pass over any number of its rounds, so
after the round that reads the character no further one is required. -/
def derivatives (s : Surroundings) (belongs : σ → Bool) : Regex σ → List (Regex σ)
  | empty | look _ => []
  | one set => if belongs set then [empty] else []
  | group r => r.derivatives s belongs
  | cat a b =>
    (a.derivatives s belongs).map (·.andThen b)
      ++ (if a.nullable s then b.derivatives s belongs else [])
  | alt a b => a.derivatives s belongs ++ b.derivatives s belongs
  | rep least most r =>
    if most = some 0 then []
    else
      let rest := rep (if r.nullable s then 0 else least - 1) (most.map (· - 1)) r
      (r.derivatives s belongs).map (·.andThen rest)

/-- Searches for a match that begins here or later, or completes one of those that have
begun. -/
def searchFrom [DecidableEq σ] (belongs : Char → σ → Bool) (r : Regex σ) (begun : List (Regex σ))
    (before : Option Char) : List Char → Bool
  | [] => (r :: begun).any (·.nullable ⟨before, none⟩)
  | c :: rest =>
    let s : Surroundings := ⟨before, some c⟩
    let current := r :: begun
    current.any (·.nullable s)
      || (let begun := (current.flatMap (·.derivatives s (belongs c))).eraseDups
          searchFrom belongs r begun (some c) rest)

/-- The sets of an expression. -/
def sets : Regex σ → List σ
  | empty | look _ => []
  | one set => [set]
  | group r | rep _ _ r => r.sets
  | cat a b | alt a b => a.sets ++ b.sets

/-- An expression over other sets. -/
def map {τ : Type} (f : σ → τ) : Regex σ → Regex τ
  | empty => empty
  | look l => look l
  | one set => one (f set)
  | group r => group (r.map f)
  | cat a b => cat (a.map f) (b.map f)
  | alt a b => alt (a.map f) (b.map f)
  | rep least most r => rep least most (r.map f)

/-- Whether the expression matches some part of a text. -/
def matchesIn (r : Regex CharSet) (text : String) : Bool :=
  let sets := r.sets.eraseDups
  let belongs (c : Char) (i : Nat) : Bool := sets[i]?.any (·.contains c)
  searchFrom belongs (r.map sets.idxOf) [] none text.toList

/-! ## Building expressions -/

/-- Some expressions one after another. -/
def catAll (rs : List (Regex σ)) : Regex σ :=
  match rs.reverse.filter fun r => !(r matches empty) with
  | [] => empty
  | r :: before => before.foldl (fun rest r => cat r rest) r

/-- The alternatives that an expression consists of. -/
def alternatives : Regex σ → List (Regex σ)
  | alt a b => a.alternatives ++ b.alternatives
  | r => [r]

/-- Whether all matches are empty. -/
def isWidthless : Regex σ → Bool
  | empty | look _ => true
  | one _ => false
  | group r | rep _ _ r => r.isWidthless
  | cat a b | alt a b => a.isWidthless && b.isWidthless

/-- Whether a match may be empty, whatever the surroundings. -/
def mayBeEmpty : Regex σ → Bool
  | empty | look _ => true
  | one _ => false
  | group r => r.mayBeEmpty
  | cat a b => a.mayBeEmpty && b.mayBeEmpty
  | alt a b => a.mayBeEmpty || b.mayBeEmpty
  | rep least _ r => least == 0 || r.mayBeEmpty

/-- An expression repeated.  More than one round adds nothing to empty matches. -/
def repeated (least : Nat) (most : Option Nat) (r : Regex σ) : Regex σ :=
  let (least, most) :=
    if r.isWidthless then (min least 1, some (most.elim 1 (min · 1))) else (least, most)
  if most = some 0 then empty else if least = 1 && most = some 1 then r else rep least most r

/-- One of some expressions.  Where all of them are sets, that is a set. -/
def altAll (rs : List (Regex CharSet)) : Regex CharSet :=
  let rs := rs.flatMap alternatives
  let set? : Regex CharSet → Option CharSet
    | one s => some s
    | _ => none
  match rs.mapM set?, rs.reverse with
  | some sets, _ :: _ => one (.unionAll sets)
  | _, r :: before => before.foldl (fun rest r => alt r rest) r
  | _, [] => one .nothing

end Regex

end SparqlStream
