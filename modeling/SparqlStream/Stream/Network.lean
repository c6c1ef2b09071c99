import SparqlStream.Stream.Stage

/-!
# Networks

A network that is built and driven from outside: streams with names, of which those that no
operator has taken are its ends.  An operator takes the ends that it reads and becomes an end
itself.  Asking an end is done on behalf of a waker with the name of the end.
-/

namespace SparqlStream

/-- A network of operators over sources. -/
structure Network (α ε : Type) where
  plant : Plant α ε Empty
  sourceNames : List String
  ends : List (String × Stage α Empty)

instance {α ε : Type} : Operator Empty α α ε where
  idle m := nomatch m
  react m := nomatch m

namespace Network

variable {α ε : Type}

/-- The network without any stream. -/
def empty : Network α ε := ⟨.empty, [], []⟩

/-- Removes an end from the network. -/
def take (n : Network α ε) (name : String) : Option (Stage α Empty × Network α ε) :=
  (n.ends.lookup name).map fun s => (s, { n with ends := n.ends.filter (·.1 ≠ name) })

/-- Removes several ends from the network. -/
def takeAll (n : Network α ε) : List String → Option (List (Stage α Empty) × Network α ε)
  | [] => some ([], n)
  | name :: rest => do
    let (s, n) ← n.take name
    let (more, n) ← n.takeAll rest
    some (s :: more, n)

/-- Adds an end. -/
def addEnd (n : Network α ε) (name : String) (s : Stage α Empty) : Network α ε :=
  { n with ends := n.ends ++ [(name, s)] }

/-- Adds a source. -/
def addSource (n : Network α ε) (name : String) (cells : List (Cell α ε)) (closed : Bool) :
    Network α ε :=
  let id := n.plant.sources.length
  let plant := { n.plant with sources := n.plant.sources ++ [.start cells closed] }
  addEnd { n with plant, sourceNames := n.sourceNames ++ [name] } name (.source id)

/-- Adds an operator on an end. -/
def addOperator (n : Network α ε) (name input : String) (op : Op α Empty) :
    Option (Network α ε) := do
  let (s, n) ← n.take input
  let plant := if op.needsInput then n.plant else n.plant.release s
  some (addEnd { n with plant } name (.ofOperator op s))

/-- Adds a union of some ends. -/
def addUnion (n : Network α ε) (name : String) (inputs : List String) : Option (Network α ε) := do
  let (ss, n) ← n.takeAll inputs
  some (n.addEnd name (.union ss .start))

/-- Adds a hub on an end.  Its branches are the new ends, named by the hub and their number. -/
def addHub (n : Network α ε) (name input : String) (count : Nat) : Option (Network α ε) := do
  let (s, n) ← n.take input
  let id := n.plant.hubs.length
  let plant := { n.plant with hubs := n.plant.hubs ++ [.start s count] }
  let plant := if count = 0 then plant.release s else plant
  some ((List.range count).foldl
    (fun n slot => n.addEnd (name ++ "." ++ toString slot) (.branch id slot)) { n with plant })

/-- Changes an end. -/
def setEnd (n : Network α ε) (name : String) (s : Stage α Empty) : Network α ε :=
  { n with ends := n.ends.map fun e => if e.1 = name then (name, s) else e }

/-- Asks an end once, if there is one with this name. -/
def step (n : Network α ε) (name : String) : Option (Signal α ε × Network α ε) :=
  (n.ends.lookup name).map fun s =>
    let (signal, s, plant) := n.plant.step name s
    (signal, { n with plant }.setEnd name s)

/-- Asks an end until it shows something other than `again`, at most `limit` times. -/
def poll (n : Network α ε) (name : String) : Nat → Option (Signal α ε × Network α ε)
  | 0 => (n.ends.lookup name).map fun _ => (.again, n)
  | limit + 1 =>
    match n.step name with
    | some (.again, n) => n.poll name limit
    | other => other

/-- Asks an end until it waits or ends, and lists what it shows. -/
def drain (n : Network α ε) (name : String) (limit : Nat) :
    Nat → Option (List (Signal α ε) × Network α ε)
  | 0 => some ([], n)
  | count + 1 => do
    match ← n.poll name limit with
    | (.pending, n) => some ([.pending], n)
    | (.finish, n) => some ([.finish], n)
    | (shown, n) =>
      let (rest, n) ← n.drain name limit count
      some (shown :: rest, n)

/-- How many items and errors an end will still show, as far as it knows. -/
def sizeHint (n : Network α ε) (name : String) : Option SizeHint :=
  (n.ends.lookup name).map (·.sizeHint n.plant)

/-- Drops an end. -/
def drop (n : Network α ε) (name : String) : Option (Network α ε) :=
  (n.take name).map fun (s, n) => { n with plant := n.plant.release s }

/-- Changes a source from outside and wakes the one who waits for it. -/
def fill (n : Network α ε) (name : String) (f : Source α ε → Source α ε) : Network α ε :=
  { n with plant := n.plant.fill (n.sourceNames.idxOf name) f }

/-- Adds a cell to a source. -/
def push (n : Network α ε) (name : String) (cell : Cell α ε) : Network α ε :=
  n.fill name (·.push cell)

/-- Tells a source that no more cells will come. -/
def close (n : Network α ε) (name : String) : Network α ε := n.fill name (·.close)

/-- How often a waker has been told. -/
def wakeCount (n : Network α ε) (w : Waker) : Nat := n.plant.woken.count w

end Network

end SparqlStream
