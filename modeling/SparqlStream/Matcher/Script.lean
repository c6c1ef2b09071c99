import SparqlStream.Binding
import SparqlStream.Results.Error

/-!
# Scripted matchers

A matcher that follows a script instead of reading data: for each binding that it takes it goes
through the same steps.  Scripts stand in for sources that are slow, fail, or give more than they
are asked for.
-/

namespace SparqlStream

/-- A step of a script. -/
inductive ScriptStep where
  /-- Shows the input binding extended by some entries, unless they contradict it. -/
  | bind (entries : List (Variable × Term))
  /-- Shows a binding that need not extend the input binding. -/
  | emit (b : Binding)
  /-- Waits once. -/
  | pause
  /-- Fails. -/
  | fail (e : ResultsError)
  deriving Repr

/-- What a script is doing for a binding: the binding, the steps that are left, and whether it has
shown anything for that binding. -/
structure ScriptRun where
  input : Binding
  left : List ScriptStep
  hasShown : Bool
  deriving Repr

/-- A matcher that follows a script. -/
structure Script where
  steps : List ScriptStep
  optional : Bool
  current : Option ScriptRun
  deriving Repr

namespace Script

/-- A matcher that has not taken any binding. -/
def start (steps : List ScriptStep) (optional : Bool) : Script := ⟨steps, optional, none⟩

/-- A binding extended by some entries one after another. -/
def extendAll (b : Binding) : List (Variable × Term) → Except BindingConflict Binding
  | [] => .ok b
  | (v, t) :: rest => do extendAll (← b.extend v t) rest

/-- Goes one step further for a binding. -/
def advance (s : Script) (run : ScriptRun) : Reaction Script Binding ResultsError :=
  match run.left with
  | [] =>
    let s := { s with current := none }
    .keep s (if s.optional && !run.hasShown then .item run.input else .again)
  | step :: left =>
    let s (hasShown : Bool) := { s with current := some ⟨run.input, left, hasShown⟩ }
    match step with
    | .bind entries =>
      match extendAll run.input entries with
      | .ok b => .keep (s true) (.item b)
      | .error _ => .keep (s run.hasShown) .again
    | .emit b => .keep (s true) (.item b)
    | .pause => .keep (s run.hasShown) .pending
    | .fail e => .close { s false with current := none } (.fail e)

/-- How a script reacts to its input. -/
def react (s : Script) : Signal Binding ResultsError → Reaction Script Binding ResultsError
  | .item b => .keep { s with current := some ⟨b, s.steps, false⟩ } .again
  | .fail e => .close s (.fail e)
  | .finish => .close s .finish
  | .pending => .keep s .pending
  | .again => .keep s .again

instance : Operator Script Binding Binding ResultsError where
  idle s _ := s.current.map s.advance
  react := react

end Script

end SparqlStream
