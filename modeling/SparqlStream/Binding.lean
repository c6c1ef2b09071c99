import SparqlStream.Rdf.Text

/-!
# Bindings

A binding assigns terms to variables and remembers the order in which they were bound.  It is
never changed: `extend` gives a new binding, and refuses to give a variable a second term.  Every
binding that is built from `empty`, `extend` and `ofList` names each variable once.
-/

namespace SparqlStream

/-- An assignment of terms to variables, in the order in which they were bound. -/
structure Binding where
  entries : List (Variable × Term)
  deriving DecidableEq, Repr, Inhabited

/-- A variable was about to be bound to two different terms. -/
structure BindingConflict where
  var : Variable
  existing : Term
  rejected : Term
  deriving DecidableEq, Repr

/-- The wording of a conflict. -/
def BindingConflict.message (c : BindingConflict) : String :=
  "Cannot bind " ++ c.var.render ++ " to " ++ c.rejected.render
    ++ " as it is already bound to " ++ c.existing.render

namespace Binding

/-- The binding of no variable. -/
def empty : Binding := ⟨[]⟩

/-- The term of a variable. -/
def get? (b : Binding) (v : Variable) : Option Term :=
  b.entries.lookup v

/-- Whether a variable is bound. -/
def contains (b : Binding) (v : Variable) : Bool :=
  (b.get? v).isSome

/-- The number of bound variables. -/
def size (b : Binding) : Nat := b.entries.length

/-- Whether no variable is bound. -/
def isEmpty (b : Binding) : Bool := b.entries.isEmpty

/-- The bound variables in binding order. -/
def domain (b : Binding) : List Variable := b.entries.map Prod.fst

/-- The binding that also gives `v` the term `t`.  Binding a variable again to its own term
changes nothing. -/
def extend (b : Binding) (v : Variable) (t : Term) : Except BindingConflict Binding :=
  match b.get? v with
  | some existing => if existing = t then .ok b else .error ⟨v, existing, t⟩
  | none => .ok ⟨b.entries ++ [(v, t)]⟩

/-- Adds an entry unless its variable is already bound. -/
def insertNew (b : Binding) (entry : Variable × Term) : Binding :=
  if b.contains entry.1 then b else ⟨b.entries ++ [entry]⟩

/-- The binding of a list of entries, in which the first term of a repeated variable counts. -/
def ofList (entries : List (Variable × Term)) : Binding :=
  entries.foldl insertNew empty

/-- The binding restricted to the variables that satisfy a condition. -/
def restrict (b : Binding) (keep : Variable → Bool) : Binding :=
  ⟨b.entries.filter fun e => keep e.1⟩

/-- The text of a binding: its entries in braces, as `?name: term`. -/
def render (b : Binding) : String :=
  "\x7b" ++ ", ".intercalate (b.entries.map fun e => e.1.render ++ ": " ++ e.2.render) ++ "\x7d"

end Binding

end SparqlStream
