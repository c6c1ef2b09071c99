import SparqlStream.Stream.Branch
import SparqlStream.Stream.Distinct
import SparqlStream.Stream.Filter
import SparqlStream.Stream.Slice
import SparqlStream.Stream.Sorter
import SparqlStream.Stream.Union

/-!
# Stages and their plant

A network of streams of one kind of item is a tree of stages whose leaves are sources and
branches.  What the leaves share is kept in a plant: the sources with the cells that they still
hold, the hubs of the branches with the stages below them, a log of each pattern matcher, and the
wake-ups.

Asking a stage asks one leaf at most.  A leaf that is a branch may ask the stage below its hub,
whose branches belong to other hubs; as no hub is below itself, the number of hubs bounds how deep
this goes.

Letting go of a stage reaches every leaf below it: a source is dropped, and a branch leaves its
hub, which lets go of its own stage when no branch is left.
-/

namespace SparqlStream

/-! ## Operators on one kind of item -/

/-- An operator whose items are those of its input.  A matcher is an operator of any other kind,
with the number under which its log is kept. -/
inductive Op (α μ : Type) where
  | filter (f : Filter α)
  | distinct (d : Distinct α)
  | slice (s : Slice)
  | sort (s : Sorter α)
  | matcher (call : Nat) (m : μ)

namespace Op

variable {α ε μ : Type} [Operator μ α α ε]

/-- What an operator does without asking its input. -/
def idle (op : Op α μ) (hasInput : Bool) : Option (Reaction (Op α μ) α ε) :=
  match op with
  | sort s => (s.idle hasInput).map (·.map sort)
  | matcher k m => (Operator.idle α m hasInput).map (·.map (matcher k))
  | _ => none

/-- How an operator reacts to its input. -/
def react (op : Op α μ) (signal : Signal α ε) : Reaction (Op α μ) α ε :=
  match op with
  | filter f => (f.react signal).map filter
  | distinct d => (d.react signal).map distinct
  | slice s => (s.react signal).map slice
  | sort s => (s.react signal).map sort
  | matcher k m => (Operator.react m signal).map (matcher k)

instance : Operator (Op α μ) α α ε where
  idle := idle
  react := react

/-- Whether an operator needs its input from the beginning. -/
def needsInput : Op α μ → Bool
  | slice s => s.needsInput
  | _ => true

end Op

/-! ## Sources -/

/-- A source that is filled from outside.  It waits where a cell says so, and when it holds no
cell but has not been closed. -/
structure Source (α ε : Type) where
  cells : List (Cell α ε)
  closed : Bool
  asked : Nat
  isLive : Bool
  waker : Option Waker

namespace Source

variable {α ε : Type}

/-- A source with some cells that nobody has asked. -/
def start (cells : List (Cell α ε)) (closed : Bool) : Source α ε := ⟨cells, closed, 0, true, none⟩

/-- Asks a source.  It remembers the waker of the last one who has to wait. -/
def step (w : Waker) (s : Source α ε) : Signal α ε × Source α ε :=
  let s := { s with asked := s.asked + 1 }
  match s.cells with
  | .item a :: rest => (.item a, { s with cells := rest })
  | .fail e :: rest => (.fail e, { s with cells := rest })
  | .pause :: rest => (.pending, { s with cells := rest, waker := some w })
  | [] => if s.closed then (.finish, s) else (.pending, { s with waker := some w })

/-- A source with one more cell. -/
def push (s : Source α ε) (cell : Cell α ε) : Source α ε := { s with cells := s.cells ++ [cell] }

/-- A source to which no more cells will come. -/
def close (s : Source α ε) : Source α ε := { s with closed := true }

/-- How many items and errors a source will still show. -/
def sizeHint (s : Source α ε) : SizeHint :=
  let n := s.cells.countP fun
    | .pause => false
    | _ => true
  ⟨n, if s.closed then some n else none⟩

end Source

/-- What is known about a matcher: how many items it has taken from its input, how many it has
shown, the first error that it has shown, and whether it is still in use. -/
structure CallLog (ε : Type) where
  pulled : Nat
  emitted : Nat
  failure : Option ε
  isLive : Bool
  deriving Repr

namespace CallLog

variable {α ε : Type}

/-- Nothing has happened yet. -/
def start : CallLog ε := ⟨0, 0, none, true⟩

/-- Counts an item of the input. -/
def notePulled (l : CallLog ε) : Signal α ε → CallLog ε
  | .item _ => { l with pulled := l.pulled + 1 }
  | _ => l

/-- Counts an item that is shown, and remembers the first error. -/
def noteShown (l : CallLog ε) : Signal α ε → CallLog ε
  | .item _ => { l with emitted := l.emitted + 1 }
  | .fail e => { l with failure := l.failure.or (some e) }
  | _ => l

end CallLog

/-! ## Stages -/

/-- A stream of a network.  A drained stage is an operator that has let go of its input. -/
inductive Stage (α μ : Type) where
  | source (id : Nat)
  | branch (hub slot : Nat)
  | operator (op : Op α μ) (input : Stage α μ)
  | drained (op : Op α μ)
  | union (inputs : List (Stage α μ)) (round : Round)

/-- What the stages of a network share.  The last wake-up comes first. -/
structure Plant (α ε μ : Type) where
  sources : List (Source α ε)
  hubs : List (Hub α (Stage α μ))
  calls : List (CallLog ε)
  woken : List Waker

namespace Plant

variable {α ε μ : Type}

/-- A plant without anything. -/
def empty : Plant α ε μ := ⟨[], [], [], []⟩

/-- Changes a source. -/
def setSource (p : Plant α ε μ) (id : Nat) (s : Source α ε) : Plant α ε μ :=
  { p with sources := p.sources.set id s }

/-- Changes a hub. -/
def setHub (p : Plant α ε μ) (id : Nat) (h : Hub α (Stage α μ)) : Plant α ε μ :=
  { p with hubs := p.hubs.set id h }

/-- Changes the log of a matcher. -/
def noteCall (p : Plant α ε μ) (op : Op α μ) (f : CallLog ε → CallLog ε) : Plant α ε μ :=
  match op with
  | .matcher k _ => { p with calls := p.calls.modify k f }
  | _ => p

/-- Tells some wakers. -/
def wake (p : Plant α ε μ) (ws : List Waker) : Plant α ε μ :=
  { p with woken := ws.reverse ++ p.woken }

/-- Changes a source from outside and wakes the one who waits for it. -/
def fill (p : Plant α ε μ) (id : Nat) (f : Source α ε → Source α ε) : Plant α ε μ :=
  match p.sources[id]? with
  | none => p
  | some s => (p.setSource id { f s with waker := none }).wake s.waker.toList

end Plant

namespace Stage

variable {α ε μ : Type}

/-- A new stage for an operator.  One that needs no input is drained from the beginning; its input
has to be let go of. -/
def ofOperator (op : Op α μ) (input : Stage α μ) : Stage α μ :=
  if op.needsInput then operator op input else drained op

/-! ### Letting go -/

mutual

/-- Lets go of a stage, given how a branch leaves its hub. -/
def releaseWith (leave : Plant α ε μ → Nat → Nat → Plant α ε μ) (p : Plant α ε μ) :
    Stage α μ → Plant α ε μ
  | source id =>
    match p.sources[id]? with
    | some s => p.setSource id { s with isLive := false }
    | none => p
  | branch hub slot => leave p hub slot
  | operator op input => releaseWith leave (p.noteCall op fun l => { l with isLive := false }) input
  | drained op => p.noteCall op fun l => { l with isLive := false }
  | union inputs _ => releaseAllWith leave p inputs

/-- Lets go of some stages in order. -/
def releaseAllWith (leave : Plant α ε μ → Nat → Nat → Plant α ε μ) (p : Plant α ε μ) :
    List (Stage α μ) → Plant α ε μ
  | [] => p
  | s :: rest => releaseAllWith leave (releaseWith leave p s) rest

end

end Stage

namespace Plant

variable {α ε μ : Type}

/-- A branch leaves its hub.  If it was the last one the hub lets go of its stage; then the
branches that wait are woken. -/
def leave : Nat → Plant α ε μ → Nat → Nat → Plant α ε μ
  | 0, p, _, _ => p
  | depth + 1, p, hub, slot =>
    match p.hubs[hub]? with
    | none => p
    | some h =>
      let after := h.drop slot
      let p := p.setHub hub (after.forgetOthers slot)
      let p :=
        match h.input, after.input with
        | some below, none => below.releaseWith (leave depth) p
        | _, _ => p
      p.wake (after.otherWakers slot)

/-- Lets go of a stage. -/
def release (p : Plant α ε μ) (s : Stage α μ) : Plant α ε μ :=
  s.releaseWith (leave p.hubs.length) p

end Plant

namespace Stage

variable {α ε μ : Type} [Operator μ α α ε]

/-! ### Asking -/

/-- The stage of an operator after it has done something. -/
def settleWith (leave : Plant α ε μ → Nat → Nat → Plant α ε μ) (p : Plant α ε μ)
    (r : Reaction (Op α μ) α ε) (input : Stage α μ) : Signal α ε × Stage α μ × Plant α ε μ :=
  if r.keepsInput then (r.shows, operator r.state input, p)
  else (r.shows, drained r.state, releaseWith leave p input)

mutual

/-- Asks a stage once, given how a branch reads its hub and leaves it. -/
def stepWith (read : Plant α ε μ → Nat → Nat → Signal α ε × Plant α ε μ)
    (leave : Plant α ε μ → Nat → Nat → Plant α ε μ) (w : Waker) (p : Plant α ε μ) :
    Stage α μ → Signal α ε × Stage α μ × Plant α ε μ
  | source id =>
    match p.sources[id]? with
    | some s =>
      let (signal, s) := s.step w
      (signal, source id, p.setSource id s)
    | none => (.finish, source id, p)
  | branch hub slot =>
    let (signal, p) := read p hub slot
    (signal, branch hub slot, p)
  | operator op input =>
    match op.idle true with
    | some r => settleWith leave (p.noteCall op (·.noteShown r.shows)) r input
    | none =>
      let (signal, input, p) := stepWith read leave w p input
      let r := op.react signal
      settleWith leave (p.noteCall op fun l => (l.notePulled signal).noteShown r.shows) r input
  | drained op =>
    match op.idle false with
    | some r => (r.shows, drained r.state, p.noteCall op (·.noteShown r.shows))
    | none => (.finish, drained op, p)
  | union inputs round =>
    if inputs.isEmpty then (.finish, union inputs round, p)
    else
      let turn := round.asked inputs.length
      let (signal, asked, p) := stepAtWith read leave w p turn inputs
      let out := round.react inputs.length signal
      match out.effect with
      | .keepAll => (out.shows, union asked out.round, p)
      | .dropAsked =>
        (out.shows, union (asked.eraseIdx turn) out.round,
          releaseAllWith leave p asked[turn]?.toList)
      | .dropAll => (out.shows, union [] out.round, releaseAllWith leave p asked)

/-- Asks one of some stages. -/
def stepAtWith (read : Plant α ε μ → Nat → Nat → Signal α ε × Plant α ε μ)
    (leave : Plant α ε μ → Nat → Nat → Plant α ε μ) (w : Waker) (p : Plant α ε μ) (n : Nat) :
    List (Stage α μ) → Signal α ε × List (Stage α μ) × Plant α ε μ
  | [] => (.finish, [], p)
  | s :: rest =>
    match n with
    | 0 =>
      let (signal, s, p) := stepWith read leave w p s
      (signal, s :: rest, p)
    | n + 1 =>
      let (signal, rest, p) := stepAtWith read leave w p n rest
      (signal, s :: rest, p)

end

end Stage

namespace Plant

variable {α ε μ : Type} [Operator μ α α ε]

/-- A branch reads its hub: from the buffer, or by asking the stage below. -/
def read (w : Waker) : Nat → Plant α ε μ → Nat → Nat → Signal α ε × Plant α ε μ
  | 0, p, _, _ => (.finish, p)
  | depth + 1, p, hub, slot =>
    match p.hubs[hub]? with
    | none => (.finish, p)
    | some h =>
      match h.position? slot with
      | none => (.finish, p)
      | some position =>
        match h.itemAt? position, h.input with
        | some a, _ => (.item a, p.setHub hub (h.advance slot position))
        | none, none => (.finish, p)
        | none, some below =>
          let (signal, below, p) := below.stepWith (read w depth) (leave depth) w p
          match signal with
          | .again => (.again, p.setHub hub { h with input := some below })
          | .pending => (.pending, p.setHub hub (leaveWaker h below slot))
          | .item a =>
            let h := Hub.deliver { h with input := some below } slot position a
            (.item a, (p.setHub hub (h.forgetOthers slot)).wake (h.otherWakers slot))
          | .fail e => (.fail e, endHub depth p hub h below slot)
          | .finish => (.finish, endHub depth p hub h below slot)
where
  leaveWaker (h : Hub α (Stage α μ)) (below : Stage α μ) (slot : Nat) : Hub α (Stage α μ) :=
    Hub.leaveWaker { h with input := some below } slot w
  endHub (depth : Nat) (p : Plant α ε μ) (hub : Nat) (h : Hub α (Stage α μ)) (below : Stage α μ)
      (slot : Nat) : Plant α ε μ :=
    let ended : Hub α (Stage α μ) := { h with input := none }
    (below.releaseWith (leave depth) (p.setHub hub (ended.forgetOthers slot))).wake
      (ended.otherWakers slot)

/-- Asks a stage once, on behalf of a waker. -/
def step (w : Waker) (p : Plant α ε μ) (s : Stage α μ) : Signal α ε × Stage α μ × Plant α ε μ :=
  s.stepWith (read w p.hubs.length) (leave p.hubs.length) w p

end Plant

namespace Stage

variable {α ε μ : Type}

/-- How many items and errors a stage will still show, as far as it knows. -/
def sizeHint (p : Plant α ε μ) : Stage α μ → SizeHint
  | source id =>
    match p.sources[id]? with
    | some s => s.sizeHint
    | none => .exact 0
  | operator (.sort s) input => s.sizeHint (some (sizeHint p input))
  | drained (.sort s) => s.sizeHint none
  | _ => .unknown

end Stage

end SparqlStream
