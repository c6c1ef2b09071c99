import SparqlStream.Query.Groups
import SparqlStream.Sparql.Pattern

/-!
# The text of queries

Reads a query: declarations, the form, the condition, and the solution modifiers.  The modifiers
become patterns around the pattern of the condition, in a fixed order.
-/

namespace SparqlStream

namespace Sparql

/-! ## Tables -/

/-- A column of a table: a variable, or a variable with its value. -/
inductive Column where
  | var (v : Variable)
  | value (e : Expression) (v : Variable)

/-- The columns of a table.  Forms other than tables have none. -/
inductive Columns where
  | none
  | all
  | some (cs : List Column)

/-- Whether repetitions are removed. -/
inductive Repetitions where
  | kept
  | removed
  | reduced

/-- The modifiers behind the condition of a query. -/
structure Tail where
  group : Option (List Variable × List (Expression × Variable))
  having : Option Expression
  order : Option (List OrderKey)
  slice : Option (Nat × Option Nat)
  values : Option GraphPattern

/-- Whether the value of an expression is known where some variables are bound.  What accepts
unbound variables counts as known. -/
def isKnown (bound : List Variable) (e : Expression) : Bool :=
  match e with
  | .iri _ | .literal _ | .bound _ | .coalesce _ | .patternExists => true
  | .var v => bound.contains v
  | .not a | .plus a | .minus a => isKnown bound a
  | .or a b | .and a b | .equal a b | .sameTerm a b | .compare _ a b | .arithmetic _ a b =>
    isKnown bound a && isKnown bound b
  | .oneOf a es => isKnown bound a && allKnown bound es
  | .ifThenElse a b c => isKnown bound a && isKnown bound b && isKnown bound c
  | .call _ es => allKnown bound es
where
  /-- Whether the values of some expressions are known. -/
  allKnown (bound : List Variable) : List Expression → Bool
    | [] => true
    | e :: es => isKnown bound e && allKnown bound es

/-- A table that is being described: its pattern, and its columns so far. -/
structure Table where
  pattern : GraphPattern
  columns : List Variable

namespace Table

/-- The table with another column.  No column may repeat another one or give a value to a variable
that has one in the condition, and in a table of groups everything has to be known for each group
by the condition alone. -/
def addColumn (grouped : Bool) (inScope : List Variable) (t : Table) (c : Column) : Option Table :=
  let guarded (bad : Bool) (t : Table) : Option Table := if bad then none else some t
  match c with
  | .var v =>
    guarded ((grouped && !inScope.contains v) || t.columns.contains v)
      { t with columns := t.columns ++ [v] }
  | .value e v =>
    guarded (inScope.contains v || (grouped && !isKnown inScope e) || t.columns.contains v)
      ⟨.extend t.pattern v e, t.columns ++ [v]⟩

/-- The table with some more columns. -/
def addColumns (grouped : Bool) (inScope : List Variable) (t : Table) (cs : List Column) :
    Option Table :=
  cs.foldlM (addColumn grouped inScope) t

end Table

/-- Variables in the order of their names, without repetitions. -/
def sortedVariables (vs : List Variable) : List Variable :=
  (Query.firstOccurrences vs).mergeSort fun v w => !(w.name < v.name)

/-- The pattern of a query, given its aggregates. -/
def assemble? (columns : Columns) (repetitions : Repetitions) (condition : GraphPattern)
    (tail : Tail) (aggregates : List Variable) : Option GraphPattern := do
  let group := if aggregates.isEmpty then tail.group else tail.group.or (some ([], []))
  let p :=
    match group with
    | some (vs, values) =>
      .group (values.foldl (fun p (e, v) => .extend p v e) condition) vs aggregates
    | none => condition
  let p := tail.having.elim p fun e => .filter e p
  let p := tail.values.elim p p.joined
  let table ←
    match columns with
    | .none => some (none, p)
    | .all => if group.isSome then none else some (some (sortedVariables p.inScope), p)
    | .some cs =>
    (Table.addColumns group.isSome p.inScope ⟨p, []⟩ cs).map fun t => (some t.columns, t.pattern)
  let p := tail.order.elim table.2 fun keys => .orderBy table.2 keys
  let p := table.1.elim p fun vs => .project p vs
  let p :=
    match repetitions with
    | .kept => p
    | .removed => .distinct p
    | .reduced => .reduced p
  return tail.slice.elim p fun (start, length) => .slice p start length

/-! ## Solution modifiers -/

namespace Grammar

/-- Reads something by which solutions are grouped. -/
def groupKey (g : Grammar) : Reader (Expression × Option Variable) :=
  Parser.firstOf
    [ (do return (← word g.namedCall, none)),
      (do return (← word g.customCall, none)),
      word (parenthesised do
        let e ← g.expression
        return (e, ← Parser.optionally (do keyword "AS"; namedVariable))),
      (do return (.var (← namedVariable), none)) ]

/-- The variable for a key, and its value if it has to be computed. -/
def groupVariable :
    Expression × Option Variable → Reader (Variable × Option (Expression × Variable))
  | (.var v, _) => pure (v, none)
  | (e, some v) => pure (v, some (e, v))
  | (e, none) => do
    let v ← newVariable
    return (v, some (e, v))

/-- Reads how solutions are grouped. -/
def groupClause (g : Grammar) : Reader (List Variable × List (Expression × Variable)) := do
  keyword "GROUP"
  keyword "BY"
  let keys ← (← Parser.many1 g.groupKey).mapM groupVariable
  return (keys.map (·.1), keys.filterMap (·.2))

/-- Reads the condition on groups.  No blanks stand between its parts. -/
def havingClause (g : Grammar) : Reader Expression := do
  keyword "HAVING"
  Parser.ofOption (conjunction? (← word (Parser.many1 g.constraint)))

/-- Reads a key by which solutions are ordered. -/
def orderKey (g : Grammar) : Reader OrderKey :=
  Parser.firstOf
    [ (do keyword "ASC"; return ⟨← word g.bracketed, false⟩),
      (do keyword "DESC"; return ⟨← word g.bracketed, true⟩),
      (do return ⟨← word g.constraint, false⟩),
      (do return ⟨.var (← namedVariable), false⟩) ]

/-- Reads how solutions are ordered. -/
def orderClause (g : Grammar) : Reader (List OrderKey) := do
  keyword "ORDER"
  keyword "BY"
  Parser.many1 g.orderKey

/-- Reads a number of solutions behind a keyword. -/
def countClause (k : String) : Reader Nat := do
  keyword k
  let digits ← word (Parser.takeWhile1 Char.isDigit)
  let n := digits.foldl (fun n c => 10 * n + (c.toNat - '0'.toNat)) 0
  Parser.check (n ≤ SizeLimit)
  return n
where
  /-- The largest number of solutions. -/
  SizeLimit : Nat := Nat.pow 2 64 - 1

/-- Reads how many solutions are dropped and shown. -/
def sliceClause : Reader (Nat × Option Nat) :=
  (do
    let l ← countClause "LIMIT"
    return ((← Parser.optionally (countClause "OFFSET")).getD 0, some l))
  <|> (do
    let o ← countClause "OFFSET"
    return (o, ← Parser.optionally (countClause "LIMIT")))

/-- Reads the modifiers behind the condition of a query. -/
def tail (g : Grammar) : Reader Tail := do
  return ⟨← Parser.optionally g.groupClause, ← Parser.optionally g.havingClause,
    ← Parser.optionally g.orderClause, ← Parser.optionally sliceClause,
    ← Parser.optionally (do keyword "VALUES"; inlineData)⟩

/-- The pattern of what has been read.  The aggregates of the table that has been described are
taken from the context. -/
def assemble (columns : Columns) (repetitions : Repetitions) (condition : GraphPattern) (t : Tail) :
    Reader GraphPattern := do
  let c ← get
  set { c with aggregates := c.aggregates.tail }
  Parser.ofOption (assemble? columns repetitions condition t (c.aggregates.head?.getD []))

/-! ## Forms -/

/-- Reads a column. -/
def column (g : Grammar) : Reader Column :=
  (do return .var (← namedVariable))
  <|> word (parenthesised do
    let e ← g.expression
    keyword "AS"
    return .value e (← namedVariable))

/-- Reads the beginning of a table. -/
def tableHead (g : Grammar) : Reader (Repetitions × Columns) := do
  keyword "SELECT"
  modify fun c => { c with aggregates := [] :: c.aggregates }
  let repetitions ←
    (do keyword "DISTINCT"; return .removed)
      <|> (do keyword "REDUCED"; return .reduced) <|> pure .kept
  let columns ← (do mark "*"; return .all) <|> (do return .some (← Parser.many1 g.column))
  return (repetitions, columns)

/-- Reads the condition of a query. -/
def condition (g : Grammar) : Reader GraphPattern := do
  let _ ← Parser.optionally (keyword "WHERE")
  word g.group

/-- Reads a table inside a group. -/
def subTable (g : Grammar) : Reader GraphPattern := do
  let (repetitions, columns) ← g.tableHead
  let p ← g.condition
  assemble columns repetitions p (← g.tail)

/-- Reads a group with its braces. -/
def bracedGroup (g : Grammar) (fresh : Fresh) : Reader GraphPattern := do
  let inside (p : Reader GraphPattern) : Reader GraphPattern := braced do
    closePattern
    let p ← p
    closePattern
    return p
  inside (g.groupBody fresh) <|> inside g.subTable

/-- The grammar for parts that may hold what another grammar reads. -/
def deepen (fresh : Fresh) (g : Grammar) : Grammar where
  expression := g.disjunction
  group := g.bracedGroup fresh
  path := g.pathAlternative
  node := g.graphNode fresh

/-- The grammar for a number of levels. -/
def ofDepth (fresh : Fresh) : Nat → Grammar
  | 0 => shallow
  | n + 1 => (ofDepth fresh n).deepen fresh

/-- Reads the graphs that a query is about, and says whether there are any. -/
def dataset : Reader Bool := do
  let graphs ← Parser.many do
    keyword "FROM"
    let _ ← Parser.optionally (keyword "NAMED")
    iri
  return !graphs.isEmpty

/-- Reads a table. -/
def selectQuery (g : Grammar) : Reader AlgebraQuery := do
  let (repetitions, columns) ← g.tableHead
  let d ← dataset
  let p ← g.condition
  return ⟨.select, ← assemble columns repetitions p (← g.tail), d⟩

/-- Reads a query for new triples. -/
def constructQuery (g : Grammar) (fresh : Fresh) : Reader AlgebraQuery :=
  (do
    keyword "CONSTRUCT"
    let template ← word (braced (g.templateTriples fresh))
    let d ← dataset
    let p ← g.condition
    return ⟨.construct template, ← assemble .none .kept p (← g.tail), d⟩)
  <|> (do
    keyword "CONSTRUCT"
    let d ← dataset
    keyword "WHERE"
    let template ← word (braced (g.conditionTriples fresh))
    return ⟨.construct template, ← assemble .none .kept (.bgp template) (← g.tail), d⟩)

/-- The column for a target of a description. -/
def targetColumn : IriPattern → Reader Column
  | .iri i => do return .value (.iri i) (← newVariable)
  | .var v => pure (.var v)

/-- Reads a query for a description. -/
def describeQuery (g : Grammar) : Reader AlgebraQuery := do
  keyword "DESCRIBE"
  let columns ←
    (do mark "*"; return .none)
    <|> (do return .some (← (← Parser.many1 variableOrIri).mapM targetColumn))
  let d ← dataset
  let p ← Parser.optionally g.condition
  return ⟨.describe, ← assemble columns .kept (p.getD (.bgp [])) (← g.tail), d⟩

/-- Reads a question. -/
def askQuery (g : Grammar) : Reader AlgebraQuery := do
  keyword "ASK"
  let d ← dataset
  let p ← g.condition
  return ⟨.ask, ← assemble .none .kept p (← g.tail), d⟩

/-- Reads a declaration. -/
def declaration : Reader Unit :=
  (do
    keyword "BASE"
    let i ← word iriRef
    modify fun c => { c with base := some i })
  <|> (do
    keyword "PREFIX"
    let name ← word nameSpace
    let i ← word iriRef
    modify fun c => { c with declared := (name, i.text) :: c.declared })

/-- Reads a query. -/
def query (g : Grammar) (fresh : Fresh) : Reader AlgebraQuery := do
  blanks
  let _ ← Parser.many declaration
  Parser.firstOf [g.selectQuery, g.constructQuery fresh, g.describeQuery, g.askQuery]

end Grammar

/-- The query that a text is, beside a base. -/
def parse? (fresh : Nat → BlankNode) (base : Option Iri) (text : String) : Option AlgebraQuery :=
  let cs := text.toList
  Parser.run? ((Grammar.ofDepth fresh (cs.length + 1)).query fresh) (.ofBase base) cs

end Sparql

/-! ## Options -/

/-- What is declared outside the text of a query: names in the order of their texts, and a base. -/
structure ParseOptions where
  declared : List (String × String)
  base : Option String
  deriving DecidableEq, Repr

namespace ParseOptions

/-- The options with a declaration, which replaces one of the same name. -/
def declare (o : ParseOptions) (name iri : String) : ParseOptions :=
  let before := o.declared.filter (·.1 < name)
  let after := o.declared.filter (name < ·.1)
  { o with declared := before ++ (name, iri) :: after }

/-- The declarations as text. -/
def prologue? : List (String × String) → Option String
  | [] => some ""
  | (name, iri) :: rest => do
    let i ← Iri.ofText? iri
    let more ← prologue? rest
    return "PREFIX " ++ name ++ ": " ++ i.render ++ " " ++ more

end ParseOptions

/-- The query that a text asks for. -/
def Query.parse (fresh : Nat → BlankNode) (options : ParseOptions) (text : String) :
    Except QueryError Query :=
  match ParseOptions.prologue? options.declared with
  | none => .error .invalidIri
  | some prologue =>
    let base := options.base.map Iri.ofText?
    if base = some none then .error .invalidQuery
    else
      match Sparql.parse? fresh base.join (prologue ++ text) with
      | some q => Query.ofAlgebra q
      | none => .error .invalidQuery

end SparqlStream
