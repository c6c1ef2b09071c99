import SparqlStream.Query.Algebra
import SparqlStream.Query.Basic
import SparqlStream.Query.Error

/-!
# From patterns to groups

Finds the query that an algebra query asks for.  The solution modifiers around the pattern become
fields of the query, if they are nested in the order in which the language nests them; the pattern
that is left becomes a group.  Groups are flat: no sequence is a member of a sequence, and no
union of a union.
-/

namespace SparqlStream

/-! ## Groups of patterns -/

/-- The groups that a group puts one after another. -/
def Group.members : Group → List Group
  | sequence children => children
  | g => [g]

/-- The groups that a group puts side by side. -/
def Group.alternatives : Group → List Group
  | union children => children
  | g => [g]

/-- A group with a condition, if there is one. -/
def Group.filterBy (condition : Option Expression) (g : Group) : Group :=
  match condition with
  | some e => filter e g
  | none => g

/-- The group of a pattern.  Of two errors in a left join the one of its right side counts. -/
def Group.ofPattern : GraphPattern → Except QueryError Group
  | .bgp [] => .ok (.sequence [])
  | .bgp patterns => .ok (.pattern patterns)
  | .join l r => do
    let l ← ofPattern l
    let r ← ofPattern r
    .ok (.sequence (l.members ++ r.members))
  | .leftJoin l r condition => do
    let r ← ofPattern r
    let l ← ofPattern l
    .ok (.sequence (l.members ++ [.optional [r.filterBy condition]]))
  | .filter condition inner => do
    let inner ← ofPattern inner
    .ok (.filter condition inner)
  | .union l r => do
    let l ← ofPattern l
    let r ← ofPattern r
    .ok (.union (l.alternatives ++ r.alternatives))
  | .path .. => .error (.unsupported .propertyPath)
  | .graph .. => .error (.unsupported .graph)
  | .extend .. => .error (.unsupported .bind)
  | .minus .. => .error (.unsupported .minus)
  | .values _ => .error (.unsupported .values)
  | .group .. => .error (.unsupported .aggregate)
  | .service .. => .error (.unsupported .service)
  | .project .. | .slice .. | .orderBy .. | .distinct _ | .reduced _ =>
    .error (.unsupported .subquery)

/-! ## Solution modifiers -/

/-- The modifiers around a pattern, and the pattern itself. -/
structure Modifiers where
  pattern : GraphPattern
  columns : Option (List Variable)
  order : List OrderKey
  offset : Nat
  limit : Option Nat
  distinct : Bool

namespace GraphPattern

/-- Takes off a slice. -/
def peelSlice : GraphPattern → Nat × Option Nat × GraphPattern
  | slice inner start length => (start, length, inner)
  | p => (0, none, p)

/-- Takes off the removal of repetitions. -/
def peelDistinct : GraphPattern → Bool × GraphPattern
  | distinct inner | reduced inner => (true, inner)
  | p => (false, p)

/-- Takes off a projection. -/
def peelProject : GraphPattern → Option (List Variable) × GraphPattern
  | project inner vars => (some vars, inner)
  | p => (none, p)

/-- Takes off an order. -/
def peelOrder : GraphPattern → List OrderKey × GraphPattern
  | orderBy inner keys => (keys, inner)
  | p => ([], p)

/-- Takes off each kind of modifier at most once, from the outside to the inside. -/
def peelModifiers (p : GraphPattern) : Modifiers :=
  let (offset, limit, p) := p.peelSlice
  let (isDistinct, p) := p.peelDistinct
  let (columns, p) := p.peelProject
  let (order, p) := p.peelOrder
  ⟨p, columns, order, offset, limit, isDistinct⟩

/-- Takes off the bindings of variables to constant IRIs, the outermost one first. -/
def peelConstants : GraphPattern → List (Variable × Iri) × GraphPattern
  | extend inner v (.iri i) =>
    let (constants, p) := inner.peelConstants
    ((v, i) :: constants, p)
  | p => ([], p)

end GraphPattern

namespace Query

/-- The query with some modifiers. -/
def ofModifiers (form : QueryForm) (m : Modifiers) : Except QueryError Query := do
  let g ← Group.ofPattern m.pattern
  .ok ⟨form, g.members, m.order, m.offset, m.limit, m.distinct⟩

/-- What a variable of a description stands for. -/
def target (constants : List (Variable × Iri)) (v : Variable) : IriPattern :=
  match constants.lookup v with
  | some i => .iri i
  | none => .var v

/-- The query that an algebra query asks for. -/
def ofAlgebra (q : AlgebraQuery) : Except QueryError Query :=
  if q.namesDataset then .error (.unsupported .dataset)
  else
    let m := q.pattern.peelModifiers
    match q.form with
    | .select => ofModifiers (.select (m.columns.elim .all .columns)) m
    | .construct template => ofModifiers (.construct template) m
    | .ask => ofModifiers .ask m
    | .describe =>
      let (constants, p) := m.pattern.peelConstants
      ofModifiers (.describe ((m.columns.getD []).map (target constants))) { m with pattern := p }

end Query

end SparqlStream
