import SparqlStream.Rdf.Reading

/-!
# Grouped documents

Reads documents that may declare a base and prefixes, group triples by subject and predicate,
describe nodes in brackets, write lists in parentheses, and write numbers and truth values
without quotes.  Graphs in braces are read where they are allowed; their triples count like all
others.

A node without label gets the next blank node of a supply.
-/

namespace SparqlStream

namespace Turtle

open Reading (Reader token mark iri newNode found)

/-! ## Nodes -/

/-- Reads a predicate. -/
def verb : Reader Iri := iri <|> (do Reading.keyword "a"; return Rdf.type)

/-- Reads verbs with their objects, given a reader of objects. -/
def properties (object : Reader Term) (s : Subject) : Reader Unit := do
  let one : Reader Unit := do
    let p ← verb
    let _ ← Parser.separatedBy1 (do found ⟨s, p, ← object⟩) (mark ",")
  one
  let _ ← Parser.many do
    mark ";"
    Parser.optionally one

/-- Reads a node that is described in brackets. -/
def described (object : Reader Term) : Reader BlankNode := do
  mark "["
  let b ← newNode
  properties object (.blank b)
  mark "]"
  return b

/-- Reads brackets without description. -/
def anonymous : Reader BlankNode := do
  mark "["
  mark "]"
  newNode

/-- Finds the triples of a list. -/
def listNode : List Term → Reader Subject
  | [] => pure (.iri Rdf.nil)
  | t :: rest => do
    let b := Subject.blank (← newNode)
    found ⟨b, Rdf.first, t⟩
    found ⟨b, Rdf.rest, (← listNode rest).toTerm⟩
    return b

/-- Reads a list in parentheses. -/
def list (object : Reader Term) : Reader Subject := do
  mark "("
  let ts ← Parser.many object
  mark ")"
  listNode ts

/-- Reads a node that is one word. -/
def plainNode : Reader Subject := do
  match (← Reading.termFrom (← token)).toSubject? with
  | some s => return s
  | none => failure

/-- Reads a node that needs no description. -/
def subject (object : Reader Term) : Reader Subject :=
  plainNode <|> (.blank <$> anonymous) <|> list object

/-- Reads an object with a number of levels of brackets and parentheses. -/
def object : Nat → Reader Term
  | 0 => failure
  | depth + 1 =>
    Parser.firstOf
      [ (do Reading.termFrom (← token)), .blank <$> anonymous, .blank <$> described (object depth),
        Subject.toTerm <$> list (object depth) ]

/-! ## Documents -/

/-- Reads the triples of a subject. -/
def statement (object : Reader Term) : Reader Unit :=
  (do properties object (← subject object))
  <|> (do
    let b ← described object
    let _ ← Parser.optionally (properties object (.blank b)))

/-- Reads the triples of a graph in braces. -/
def graphBlock (object : Reader Term) : Reader Unit := do
  mark "\x7b"
  let _ ← Parser.separatedBy (statement object) (mark ".")
  let _ ← Parser.optionally (mark ".")
  mark "\x7d"

/-- Reads the name of a graph. -/
def graphName : Reader Unit :=
  (do let _ ← plainNode) <|> (do let _ ← anonymous)

/-- Reads a graph in braces, with or without a name. -/
def namedGraph (object : Reader Term) : Reader Unit :=
  Parser.firstOf
    [ (do Reading.keywordInAnyCase "graph"; graphName; graphBlock object),
      (do graphName; graphBlock object),
      graphBlock object ]

/-- Reads a part of a document. -/
def part (named : Bool) (object : Reader Term) : Reader Unit :=
  Parser.firstOf
    [ Reading.openDeclaration, (do Reading.closedDeclaration; mark "."),
      (do Parser.check named; namedGraph object), (do statement object; mark ".") ]

/-- The triples of a document. -/
def read? (named : Bool) (supply : Nat → BlankNode) (text : String) : Option (List Triple) :=
  Reading.triplesOf? .grouped supply (do
    let _ ← Parser.many (part named (object (text.length + 1)))
    Reading.blanks) text

end Turtle

end SparqlStream
