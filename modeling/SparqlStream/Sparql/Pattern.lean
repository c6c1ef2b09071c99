import SparqlStream.Sparql.Expression
import SparqlStream.Sparql.Triples

/-!
# Groups of queries

Reads the groups of a query as patterns.  Triples that stand together form one basic graph pattern,
also if they stand in groups of their own.  The conditions of a group hold for the whole group, and
those of an optional group belong to the left join.
-/

namespace SparqlStream

namespace GraphPattern

/-- The join of two patterns.  An empty pattern disappears, basic graph patterns become one, and so
do patterns for the same graph. -/
def joined : GraphPattern → GraphPattern → GraphPattern
  | bgp [], r => r
  | l, bgp [] => l
  | bgp l, bgp r => bgp (l ++ r)
  | graph n l, graph m r => if n = m then graph n (joined l r) else join (graph n l) (graph m r)
  | l, r => join l r

end GraphPattern

namespace Sparql

namespace Statement

/-- A statement as a pattern. -/
def toPattern : Statement → GraphPattern
  | triple t => .bgp [t]
  | path s p o => .path s p o

/-- Adds a statement before some patterns.  A triple joins the triples that follow it. -/
def cons (s : Statement) (ps : List GraphPattern) : List GraphPattern :=
  match s, ps with
  | triple t, .bgp ts :: rest => .bgp (t :: ts) :: rest
  | s, ps => s.toPattern :: ps

/-- The pattern of some statements. -/
def joinAll (ss : List Statement) : GraphPattern := (ss.foldr cons []).foldl .joined (.bgp [])

end Statement

/-- A part of a group. -/
inductive GroupPart where
  | optional (inner : GraphPattern)
  | minus (inner : GraphPattern)
  | bind (value : Expression) (v : Variable)
  | filter (condition : Expression)
  | other (p : GraphPattern)

namespace GroupPart

/-- The pattern with another part of its group.  A variable that is already there cannot be bound
to a value. -/
def addTo (p : GraphPattern) : GroupPart → Option GraphPattern
  | optional (.filter condition inner) => some (.leftJoin p inner (some condition))
  | optional inner => some (.leftJoin p inner none)
  | minus inner => some (.minus p inner)
  | bind value v => if p.inScope.contains v then none else some (.extend p v value)
  | filter _ => some p
  | other q => some (p.joined q)

/-- The pattern with the other parts of its group. -/
def addAll (p : GraphPattern) : List GroupPart → Option GraphPattern
  | [] => some p
  | part :: rest => do addAll (← part.addTo p) rest

/-- The condition of a part. -/
def condition? : GroupPart → Option Expression
  | filter e => some e
  | _ => none

end GroupPart

/-- The conjunction of some conditions, grouped to the left. -/
def conjunction? : List Expression → Option Expression
  | [] => none
  | e :: rest => some (rest.foldl .and e)

/-- The pattern of a group. -/
def groupPattern? (first : GraphPattern) (parts : List GroupPart) : Option GraphPattern := do
  let p ← GroupPart.addAll first parts
  match conjunction? (parts.filterMap (·.condition?)) with
  | some e => return .filter e p
  | none => return p

namespace Grammar

/-! ## Inline data -/

/-- Reads a value of inline data. -/
def dataValue : Reader Unit :=
  (do let _ ← iri) <|> (do let _ ← literal) <|> keyword "UNDEF"

/-- Reads something in braces.  Blanks behind the last one are not read. -/
def braced {α : Type} (p : Reader α) : Reader α := do
  mark "\x7b"
  let a ← p
  char '\x7d'
  return a

/-- Reads inline data.  Each row has a value for each variable. -/
def inlineData : Reader GraphPattern :=
  (do
    let v ← namedVariable
    let _ ← word (braced (Parser.many dataValue))
    return .values [v])
  <|> (do
    let vs ← word (parenthesised (Parser.many namedVariable))
    let rows ← word (braced (Parser.many (word (parenthesised (Parser.many dataValue)))))
    Parser.check (rows.all (·.length = vs.length))
    return .values vs)

/-! ## Groups -/

/-- Reads the triples of a group. -/
def triplesBlock (g : Grammar) (fresh : Fresh) : Reader GraphPattern := do
  return Statement.joinAll (← g.statements fresh g.pathVerb)

/-- Reads some groups side by side. -/
def unionOfGroups (g : Grammar) : Reader GroupPart := do
  match ← Parser.separatedBy1 (word g.group) (keyword "UNION") with
  | [] => failure
  | p :: rest => return .other (rest.foldl .union p)

/-- Reads a part of a group that is no triple. -/
def groupPart (g : Grammar) : Reader GroupPart :=
  Parser.firstOf
    [ g.unionOfGroups,
      (do keyword "OPTIONAL"; return .optional (← word g.group)),
      (do keyword "MINUS"; return .minus (← word g.group)),
      (do
        keyword "GRAPH"
        let n ← variableOrIri
        return .other (.graph n (← word g.group))),
      (do
        keyword "SERVICE"
        (do
          keyword "SILENT"
          let n ← variableOrIri
          return .other (.service n (← word g.group)))
        <|> (do
          let n ← variableOrIri
          return .other (.service n (← word g.group)))),
      (do keyword "FILTER"; return .filter (← word g.constraint)),
      (do
        keyword "BIND"
        word (parenthesised do
          let e ← g.expression
          keyword "AS"
          return .bind e (← namedVariable))),
      (do keyword "VALUES"; return .other (← inlineData)) ]

/-- Reads what stands between the braces of a group. -/
def groupBody (g : Grammar) (fresh : Fresh) : Reader GraphPattern := do
  let first ← Parser.optionally (g.triplesBlock fresh)
  let parts ← Parser.many do
    let part ← g.groupPart
    let _ ← Parser.optionally (mark ".")
    match ← Parser.optionally (g.triplesBlock fresh) with
    | some p => return [part, .other p]
    | none => return [part]
  Parser.ofOption (groupPattern? (first.getD (.bgp [])) parts.flatten)

end Grammar

end Sparql

end SparqlStream
