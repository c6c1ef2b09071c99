import SparqlStream.Regex.Basic
import SparqlStream.Unicode.Bytes

/-!
# Sizes of expressions

How much room an automaton for an expression takes.  An automaton reads bytes, forward or backward,
and has states of a fixed size, of which some have room for transitions.  An expression is too large
if one of its two automata takes too much room.

The states are counted, not built, so a repetition of a small expression is counted as fast as the
expression.
-/

namespace SparqlStream

namespace Regex

/-- Which way an automaton reads. -/
inductive Direction where
  | forward
  | backward
  deriving DecidableEq

namespace Room

/-- The room of a state. -/
def state : Nat := 32

/-- The room of a transition to another state without a condition. -/
def jump : Nat := 4

/-- The room of a transition that reads a byte. -/
def step : Nat := 8

/-- The room that an automaton may take. -/
def limit : Nat := 10 * Nat.pow 2 20

end Room

/-! ## Sets -/

/-- The transitions of a node in a tree of sequences, each with the node that it leads to.  A node
is what is left of the sequences. -/
def branches : List Utf8.Sequence → List (Utf8.ByteRange × List Utf8.Sequence)
  | [] => []
  | [] :: rest => branches rest
  | (r :: tail) :: rest =>
    match branches rest with
    | (r', tails) :: others =>
      if r = r' then (r, tail :: tails) :: others else (r, [tail]) :: (r', tails) :: others
    | [] => [(r, [tail])]

/-- The nodes with transitions in a tree of sequences of limited length. -/
def nodes : (length : Nat) → List Utf8.Sequence → List (List Utf8.Sequence)
  | 0, _ => []
  | length + 1, seqs =>
    seqs :: (branches seqs).flatMap fun b =>
      if b.2.all List.isEmpty then [] else nodes length b.2

/-- The room of a set.  Forward, equal nodes are one; backward, each transition is a state. -/
def setRoom (d : Direction) (s : CharSet) : Nat :=
  match s.only? with
  | some n => Room.state * (Utf8.encode n).length
  | none =>
    if s.isBelow 0x80 then 2 * Room.state + Room.step * s.ranges.length
    else
      let seqs := s.ranges.flatMap Utf8.sequences
      let all := nodes 4 seqs
      match d with
      | .forward =>
        let room (node : List Utf8.Sequence) : Nat :=
          Room.state + Room.step * (branches node).length
        all.eraseDups.foldr (fun node n => room node + n) Room.state
      | .backward =>
        let transitions := all.foldr (fun node n => (branches node).length + n) 0
        2 * Room.state + Room.jump * seqs.length + Room.state * transitions

/-! ## Words -/

/-- The bytes of an expression that matches one text. -/
def bytes? : Regex CharSet → Option (List Nat)
  | one s => s.only?.map Utf8.encode
  | cat a b => do return (← bytes? a) ++ (← bytes? b)
  | _ => none

/-- A tree of words: the branches that are open for further words, and the parts that have been
closed because a word ends there, the last one first. -/
inductive WordTree where
  | node (branches : List (Nat × WordTree)) (closed : List (List (Nat × WordTree)))

namespace WordTree

/-- The tree without words. -/
def leaf : WordTree := .node [] []

/-- The tree of one word. -/
def ofWord : List Nat → WordTree
  | [] => .node [] [[]]
  | b :: bs => .node [(b, ofWord bs)] []

/-- Whether nothing follows. -/
def isLeaf : WordTree → Bool
  | .node branches closed => branches.isEmpty && closed.all List.isEmpty

mutual

/-- The tree with one more word. -/
def insert : WordTree → List Nat → WordTree
  | .node branches closed, [] =>
    if branches.isEmpty && !closed.isEmpty && closed.all List.isEmpty then .node branches closed
    else .node [] (branches :: closed)
  | .node branches closed, b :: bs => .node (insertBranch branches b bs) closed

/-- Branches with one more word. -/
def insertBranch : List (Nat × WordTree) → Nat → List Nat → List (Nat × WordTree)
  | [], b, bs => [(b, ofWord bs)]
  | (b', t) :: rest, b, bs =>
    if b = b' then (b', t.insert bs) :: rest else (b', t) :: insertBranch rest b bs

end

mutual

/-- The room of a tree: a state for its parts, and one for the transitions of each. -/
def room : WordTree → Nat
  | .node branches closed =>
    let open_ := if branches.isEmpty then 0 else partRoom branches + Room.jump
    Room.state + Room.jump * closed.length + closedRoom closed + open_

/-- The room of parts that have been closed. -/
def closedRoom : List (List (Nat × WordTree)) → Nat
  | [] => 0
  | part :: rest => (if part.isEmpty then 0 else partRoom part + Room.jump) + closedRoom rest

/-- The room of the transitions of a part, and of what they lead to. -/
def partRoom (part : List (Nat × WordTree)) : Nat :=
  Room.state + (if part.length = 1 then 0 else Room.step * part.length) + branchesRoom part

/-- The room of what branches lead to. -/
def branchesRoom : List (Nat × WordTree) → Nat
  | [] => 0
  | (_, t) :: rest => (if t.isLeaf then 0 else t.room) + branchesRoom rest

end

/-- The tree of some words. -/
def ofWords (words : List (List Nat)) : WordTree := words.foldl insert leaf

end WordTree

/-! ## Expressions -/

/-- The room of a repetition of an expression, given the room of the expression. -/
def repeatedRoom (least : Nat) (most : Option Nat) (mayBeEmpty : Bool) (body : Nat) : Nat :=
  let loop := Room.state + 2 * Room.jump
  match most with
  | none =>
    if least ≠ 0 then least * body + loop
    else if mayBeEmpty then body + 2 * loop + Room.state
    else body + loop
  | some most =>
    if least = most then least * body
    else
      let start := if least = 0 && most ≠ 1 then Room.state else 0
      start + least * body + (most - least) * (body + loop) + Room.state

/-- The room of an expression.  An alternative of another expression is reached by a transition. -/
def room (d : Direction) (isAlternative : Bool) : Regex CharSet → Nat
  | alt a b =>
    match if isAlternative then none else (alternatives (alt a b)).mapM bytes? with
    | some words =>
      Room.state + (WordTree.ofWords (if d = .forward then words else words.map List.reverse)).room
    | none =>
      (if isAlternative then 0 else 2 * Room.state) + a.room d true + b.room d true
  | r =>
    let own :=
      match r with
      | empty | look _ => Room.state
      | one s => setRoom d s
      | group r => r.room d false + (if d = .forward then 2 * Room.state else 0)
      | cat a b => a.room d false + b.room d false
      | alt _ _ => 0
      | rep least most r => repeatedRoom least most r.mayBeEmpty (r.room d false)
    own + (if isAlternative then Room.jump else 0)

/-- Whether the expression is not too large.  Each automaton also has states for the end of a match
and to look for a match at every position, and the first one for the whole of a match. -/
def isSmall (r : Regex CharSet) : Bool :=
  let common := 4 * Room.state + 2 * Room.jump + Room.step
  common + 2 * Room.state + r.room .forward false ≤ Room.limit
    && common + r.room .backward false ≤ Room.limit

end Regex

end SparqlStream
