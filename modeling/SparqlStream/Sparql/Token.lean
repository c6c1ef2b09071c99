import SparqlStream.Query.Algebra
import SparqlStream.Sparql.Terminal

/-!
# The words of queries

Reads the words of a query: keywords, IRIs, names, variables, literals and blank nodes, and the
blanks and comments behind them.  Keywords may be written in any case, and no blank is needed to
end them.

Reading has a state, and what reading has done to it stays done where one reading fails and another
one is tried.  It knows the base and the prefixes, counts the nodes and variables that have
no name in the text, remembers which blank nodes have been used, because a label must not be used in
two basic graph patterns, and collects the aggregates of each table that is being described.
-/

namespace SparqlStream

namespace Sparql

/-- What reading a query knows.  The innermost table comes first. -/
structure Context where
  base : Option Iri
  declared : List (String × String)
  used : List String
  current : List String
  aggregates : List (List Variable)
  next : Nat

/-- Reads a part of a query. -/
abbrev Reader := Parser Char Context

namespace Context

/-- Nothing has been declared except a base. -/
def ofBase (base : Option Iri) : Context := ⟨base, [], [], [], [], 0⟩

/-- The context after another unnamed node or variable. -/
def advance (c : Context) : Context := { c with next := c.next + 1 }

/-- The text that a declared name stands for. -/
def lookup? (c : Context) (name : String) : Option String := c.declared.lookup name

end Context

/-! ## Keywords -/

/-- Reads a keyword. -/
def keyword (k : String) : Reader Unit := word (Parser.keyword k)

/-- Reads something in parentheses.  Blanks behind the last one are not read. -/
def parenthesised {α : Type} (p : Reader α) : Reader α := do
  mark "("
  let a ← p
  char ')'
  return a

/-! ## IRIs -/

/-- Reads an IRI between angle brackets. -/
def iriRef : Reader Iri := do
  let s ← iriText
  Parser.ofOption (Iri.resolve? (← get).base s)

/-- Reads a name that stands for an IRI.  Where the local name does not lead to an IRI, it is not
read. -/
def prefixedName : Reader Iri := do
  let base ← Parser.ofOption ((← get).lookup? (← nameSpace))
  (do Parser.ofOption (Iri.ofText? (base ++ (← localName)))) <|> Parser.ofOption (Iri.ofText? base)

/-- Reads an IRI. -/
def iri : Reader Iri := word (iriRef <|> prefixedName)

/-! ## Variables -/

/-- Reads a variable. -/
def namedVariable : Reader Variable := word do
  let _ ← Parser.satisfy fun c => c = '?' || c = '$'
  let cs ← Parser.written do
    let _ ← Parser.satisfy fun c => isNameStart c || c.isDigit
    Parser.takeWhile isVariableChar
  return ⟨String.ofList cs⟩

/-- Reads a variable or an IRI. -/
def variableOrIri : Reader IriPattern := (.var <$> namedVariable) <|> (.iri <$> iri)

/-! ## Literals -/

/-- Reads a literal that is written as a string. -/
def stringLiteral : Reader Literal := do
  let s ← word string
  (do mark "^^"; return .ofDatatype s (← iri))
    <|> (do return .tagged s (← word languageTag))
    <|> pure (.simple s)

/-- Reads a number, which a sign may precede. -/
def numericLiteral : Reader Literal := word do
  let before ← Parser.rest
  let _ ← Parser.optionally (do let _ ← Parser.satisfy fun c => c = '+' || c = '-'; blanks)
  let kind ← number
  let after ← Parser.rest
  return .typed (String.ofList (before.take (before.length - after.length))) kind.datatype

/-- Reads a truth value. -/
def booleanLiteral : Reader Literal :=
  (do mark "true"; return .ofBool true) <|> (do mark "false"; return .ofBool false)

/-- Reads a literal. -/
def literal : Reader Literal := stringLiteral <|> numericLiteral <|> booleanLiteral

/-! ## Blank nodes and new variables -/

/-- A blank node without a name in the text. -/
def newNode (fresh : Nat → BlankNode) : Reader BlankNode := do
  let c ← get
  set c.advance
  return fresh c.next

/-- A variable without a name in the text, which no text can name. -/
def newVariable : Reader Variable := do
  let c ← get
  set c.advance
  return ⟨"." ++ toString c.next⟩

/-- Reads a blank node with a label.  The label must not have been used in another basic graph
pattern. -/
def labelledNode : Reader BlankNode := word do
  let label ← blankLabel
  let c ← get
  Parser.check !(c.used.contains label)
  set { c with current := label :: c.current }
  return ⟨label⟩

/-- Reads brackets with nothing but blanks between them. -/
def emptyBrackets (left right : Char) : Reader Unit := do
  char left
  let _ ← Parser.takeWhile Terminal.isBlank
  char right

/-- From here on the labels that have been read count as used. -/
def closePattern : Reader Unit :=
  modify fun c => { c with used := c.current ++ c.used, current := [] }

/-! ## Terms -/

/-- Reads a term or a variable. -/
def term (fresh : Nat → BlankNode) : Reader TermPattern :=
  Parser.firstOf
    [ .var <$> namedVariable, .iri <$> iri, .literal <$> literal, .blank <$> labelledNode,
      (do word (emptyBrackets '[' ']'); return .blank (← newNode fresh)),
      (do word (emptyBrackets '(' ')'); return .iri Rdf.nil) ]

end Sparql

end SparqlStream
