import SparqlStream.Sparql.Grammar

/-!
# Expressions of queries

Reads expressions.  Operators of the same strength group to the right.  Aggregates stand for a
variable of the table that is being described; outside of a table there are none.
-/

namespace SparqlStream

/-- How many arguments a function takes, in the order in which the numbers are tried.  A function
without number takes any number of arguments. -/
def Builtin.arities : Builtin → List Nat
  | concat => []
  | rand | now | uuid | strUuid => [0]
  | bnode => [1, 0]
  | langMatches | contains | strStarts | strEnds | strBefore | strAfter | strLang | strDt => [2]
  | subStr | regex => [3, 2]
  | replace => [4, 3]
  | _ => [1]

/-- Whether blanks may stand between a name and its arguments. -/
def Builtin.isLoose : Builtin → Bool
  | concat | bnode | encodeForUri | md5 | sha1 | sha256 | sha384 | sha512 | isBlank | isLiteral
  | isNumeric => false
  | _ => true

/-- Other names of functions. -/
def Builtin.synonyms : List (Builtin × String) := [(iri, "URI"), (isIri, "isURI")]

namespace Sparql

namespace Grammar

/-! ## Calls -/

/-- Reads any number of arguments. -/
def arguments (g : Grammar) : Reader (List Expression) :=
  (parenthesised (Parser.separatedBy1 g.expression (mark ",")))
    <|> (do emptyBrackets '(' ')'; return [])

/-- Reads some expressions with commas between them. -/
def listed (g : Grammar) : Nat → Reader (List Expression)
  | 0 => pure []
  | 1 => do return [← g.expression]
  | n + 1 => do
    let e ← g.expression
    mark ","
    return e :: (← listed g n)

/-- Reads a number of arguments. -/
def argumentsOf (g : Grammar) (n : Nat) : Reader (List Expression) :=
  if n = 0 then do emptyBrackets '(' ')'; return [] else parenthesised (g.listed n)

/-- The variable of a new aggregate. -/
def newAggregate : Reader Expression := do
  let v ← newVariable
  match (← get).aggregates with
  | [] => failure
  | innermost :: outer =>
    modify fun c => { c with aggregates := (innermost ++ [v]) :: outer }
    return .var v

/-- Reads what an aggregate of a name is about, which `DISTINCT` may precede.  Each form is read
from its beginning. -/
def aggregateOf (name : String) (forms : List (Reader Unit)) : Reader Unit :=
  let about (p : Reader Unit) : Reader Unit := do
    keyword name
    parenthesised p
  Parser.firstOf (forms.map (fun p => about (do keyword "DISTINCT"; p)) ++ forms.map about)

/-- Reads an aggregate. -/
def aggregate (g : Grammar) : Reader Expression := do
  let one : Reader Unit := do let _ ← g.expression
  let withSeparator : Reader Unit := do
    one
    mark ";"
    keyword "SEPARATOR"
    mark "="
    let _ ← word string
  Parser.firstOf (
    aggregateOf "COUNT" [mark "*", one]
      :: ["SUM", "MIN", "MAX", "AVG", "SAMPLE"].map (aggregateOf · [one])
      ++ [aggregateOf "GROUP_CONCAT" [withSeparator, one],
        (do
          let _ ← iri
          parenthesised do
            keyword "DISTINCT"
            one)])
  newAggregate

/-- Reads a call of a function with a name and its arguments. -/
def builtinCall (g : Grammar) (entry : Builtin × String) : Reader Expression := do
  if entry.1.isLoose then keyword entry.2 else Parser.keyword entry.2
  let es ←
    match entry.1.arities with
    | [] => g.arguments
    | ns => Parser.firstOf (ns.map g.argumentsOf)
  return .call (.builtin entry.1) es

/-- Reads a test whether a pattern exists. -/
def existence (g : Grammar) : Reader Expression :=
  (do
    keyword "EXISTS"
    let _ ← g.group
    return .patternExists)
  <|> (do
    keyword "NOT"
    keyword "EXISTS"
    let _ ← g.group
    return .not .patternExists)

/-- Reads a call of something that the language names.  Blanks behind it are not read. -/
def namedCall (g : Grammar) : Reader Expression :=
  Parser.firstOf (
    [ g.aggregate,
      (do
        keyword "BOUND"
        return .bound (← parenthesised namedVariable)),
      (do
        Parser.keyword "COALESCE"
        return .coalesce (← g.arguments)),
      (do
        keyword "IF"
        match ← g.argumentsOf 3 with
        | [c, t, e] => return .ifThenElse c t e
        | _ => failure),
      (do
        Parser.keyword "sameTerm"
        match ← g.argumentsOf 2 with
        | [a, b] => return .sameTerm a b
        | _ => failure) ]
    ++ (Builtin.table ++ Builtin.synonyms).map g.builtinCall ++ [g.existence])

/-- Reads a call of a function that an IRI names. -/
def customCall (g : Grammar) : Reader Expression := do
  let i ← iri
  return .call (.custom i) (← g.arguments)

/-- Reads an expression in parentheses. -/
def bracketed (g : Grammar) : Reader Expression := parenthesised g.expression

/-- Reads a condition. -/
def constraint (g : Grammar) : Reader Expression := g.bracketed <|> g.customCall <|> g.namedCall

/-! ## Operators -/

/-- Reads an operand. -/
def primary (g : Grammar) : Reader Expression :=
  Parser.firstOf
    [ word g.bracketed,
      (do
        let i ← iri
        match ← Parser.optionally (word g.arguments) with
        | some es => return .call (.custom i) es
        | none => return .iri i),
      .var <$> namedVariable, .literal <$> literal, word g.namedCall ]

/-- Reads an operand with at most one operator before it. -/
def unary (g : Grammar) : Reader Expression :=
  Parser.firstOf
    [ (do mark "!"; return .not (← g.primary)),
      (do mark "+"; return .plus (← g.primary)),
      (do mark "-"; return .minus (← g.primary)),
      g.primary ]

/-- Operands with operators between them, grouped to the right. -/
def groupRight {α : Type} (combine : α → Expression → Expression → Expression) :
    Expression → List (α × Expression) → Expression
  | e, [] => e
  | e, (op, next) :: rest => combine op e (groupRight combine next rest)

/-- Reads operands with one of two operators between them. -/
def arithmetic (p : Reader Expression) (first second : String × Arithmetic) :
    Reader Expression := do
  let e ← p
  let operator : Reader Arithmetic :=
    (do mark first.1; return first.2) <|> (do mark second.1; return second.2)
  let more ← Parser.many do
    let op ← operator
    return (op, ← p)
  return groupRight .arithmetic e more

/-- Reads products and quotients. -/
def multiplicative (g : Grammar) : Reader Expression :=
  arithmetic g.unary ("*", .multiply) ("/", .divide)

/-- Reads sums and differences. -/
def additive (g : Grammar) : Reader Expression :=
  arithmetic g.multiplicative ("+", .add) ("-", .subtract)

/-- Reads a comparison, or its first operand alone. -/
def relational (g : Grammar) : Reader Expression := do
  let a ← g.additive
  let operator (m : String) (combine : Expression → Expression → Expression) :
      Reader Expression := do
    mark m
    return combine a (← g.additive)
  Parser.firstOf
    [ operator "=" .equal,
      operator "!=" fun x y => .not (.equal x y),
      operator ">=" (.compare .greaterOrEqual),
      operator ">" (.compare .greater),
      operator "<=" (.compare .lessOrEqual),
      operator "<" (.compare .less),
      (do keyword "IN"; return .oneOf a (← word g.arguments)),
      (do keyword "NOT"; keyword "IN"; return .not (.oneOf a (← word g.arguments))),
      pure a ]

/-- Expressions with an operator between them, grouped to the left. -/
def groupLeft (combine : Expression → Expression → Expression) : List Expression → Reader Expression
  | [] => failure
  | e :: rest => pure (rest.foldl combine e)

/-- Reads conjunctions. -/
def conjunction (g : Grammar) : Reader Expression := do
  groupLeft .and (← Parser.separatedBy1 g.relational (mark "&&"))

/-- Reads alternatives. -/
def disjunction (g : Grammar) : Reader Expression := do
  groupLeft .or (← Parser.separatedBy1 g.conjunction (mark "||"))

end Grammar

end Sparql

end SparqlStream
