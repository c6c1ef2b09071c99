import SparqlStream.Rdf.Reading

/-!
# Documents with formulas

Reads documents in which a subject, a predicate or an object may be any expression: a term, a
variable, a list, a node that is described in brackets, a formula in braces, or a path from one of
them.  A path stands for the node to which it leads, and a formula for a new node.  The triples of
formulas count like all others.

A triple that is no triple of a graph, such as one with a variable, spoils the document.
-/

namespace SparqlStream

namespace Formulas

open Reading (Reader token mark keyword newNode)

/-! ## Expressions -/

/-- What an expression stands for. -/
inductive Node where
  | term (t : Term)
  | variable

/-- A node without label. -/
def Node.new : Reader Node := do return .term (.blank (← newNode))

/-- Finds a triple of nodes. -/
def found (s p o : Node) : Reader Unit := do
  match s, p, o with
  | .term s, .term (.iri p), .term o =>
    Reading.found ⟨← Parser.ofOption s.toSubject?, p, o⟩
  | _, _, _ => failure

/-- A predicate between two nodes, which may go from the second one to the first. -/
structure Verb where
  predicate : Node
  isInverse : Bool

/-- Finds the triple of two nodes and what stands between them. -/
def Verb.found (v : Verb) (s o : Node) : Reader Unit :=
  if v.isInverse then Formulas.found o v.predicate s else Formulas.found s v.predicate o

/-- The predicate of nodes that are the same. -/
def sameAs : Node := .term (.iri ⟨"http://www.w3.org/2002/07/owl#sameAs"⟩)

/-- The predicate of formulas of which one follows from the other. -/
def implies : Node := .term (.iri ⟨"http://www.w3.org/2000/10/swap/log#implies"⟩)

/-- Reads what stands between two nodes, given a reader of expressions. -/
def verb (expression : Reader Node) : Reader Verb :=
  Parser.firstOf
    [ (do keyword "a"; return ⟨.term (.iri Rdf.type), false⟩),
      (do keyword "has"; return ⟨← expression, false⟩),
      (do
        keyword "is"
        let p ← expression
        keyword "of"
        return ⟨p, true⟩),
      (do mark "="; return ⟨sameAs, false⟩), (do mark "=>"; return ⟨implies, false⟩),
      (do mark "<="; return ⟨implies, true⟩), (do mark "<-"; return ⟨← expression, true⟩),
      (do return ⟨← expression, false⟩) ]

/-- Reads verbs with their objects. -/
def properties (expression : Reader Node) (s : Node) : Reader Unit := do
  let one : Reader Unit := do
    let v ← verb expression
    let _ ← Parser.separatedBy1 (do v.found s (← expression)) (mark ",")
  one
  let _ ← Parser.many do
    mark ";"
    Parser.optionally one

/-- Reads a node that is described in brackets.  It may have an IRI. -/
def described (expression : Reader Node) : Reader Node := do
  mark "["
  Parser.firstOf
    [ (do mark "]"; Node.new),
      (do
        keyword "id"
        let s : Node := .term (.iri (← Reading.iri))
        properties expression s
        mark "]"
        return s),
      (do
        let s ← Node.new
        properties expression s
        mark "]"
        return s) ]

/-- Reads the rest of a list, of which a node stands for the rest. -/
def members (expression : Reader Node) : (limit : Nat) → Node → Reader Unit
  | 0, _ => failure
  | limit + 1, node => do
    found node (.term (.iri Rdf.first)) (← expression)
    (do mark ")"; found node (.term (.iri Rdf.rest)) (.term (.iri Rdf.nil)))
    <|> (do
      let next ← Node.new
      found node (.term (.iri Rdf.rest)) next
      members expression limit next)

/-- Reads a list in parentheses. -/
def list (expression : Reader Node) : Reader Node := do
  mark "("
  (do mark ")"; return .term (.iri Rdf.nil))
  <|> (do
    let node ← Node.new
    members expression (← Parser.rest).length node
    return node)

/-- Reads the triples of a subject, which may have none. -/
def statement (expression : Reader Node) : Reader Unit := do
  let s ← expression
  let _ ← Parser.optionally (properties expression s)

/-- Reads the rest of a formula up to its closing brace. -/
def contents (expression : Reader Node) : (limit : Nat) → Reader Unit
  | 0 => failure
  | limit + 1 =>
    Parser.firstOf
      [ mark "\x7d",
        (do
          Reading.openDeclaration
          contents expression limit),
        (do
          Reading.closedDeclaration <|> statement expression
          mark "\x7d" <|> (do mark "."; contents expression limit)) ]

/-- Reads a formula in braces. -/
def formula (expression : Reader Node) : Reader Node := do
  mark "\x7b"
  let node ← Node.new
  contents expression (← Parser.rest).length
  return node

/-- Reads a term or a variable. -/
def plain : Reader Node := do
  match ← token with
  | .variable _ => return .variable
  | t => return .term (← Reading.termFrom t)

/-- Reads the steps of a path behind a node. -/
def steps (item : Reader Node) : (limit : Nat) → Node → Reader Node
  | 0, node => return node
  | limit + 1, node =>
    Parser.firstOf
      [ (do
          mark "!"
          let p ← item
          let next ← Node.new
          found node p next
          steps item limit next),
        (do
          mark "^"
          let p ← item
          let next ← Node.new
          found next p node
          steps item limit next),
        pure node ]

/-- Reads an expression with a number of levels of brackets, braces and parentheses. -/
def expression : Nat → Reader Node
  | 0 => failure
  | depth + 1 => do
    let inner := expression depth
    let item : Reader Node := Parser.firstOf [plain, described inner, list inner, formula inner]
    steps item (← Parser.rest).length (← item)

/-! ## Documents -/

/-- Reads a part of a document. -/
def part (expression : Reader Node) : Reader Unit :=
  Reading.openDeclaration
    <|> (do Reading.closedDeclaration <|> statement expression; mark ".")

/-- The triples of a document. -/
def read? (supply : Nat → BlankNode) (text : String) : Option (List Triple) :=
  Reading.triplesOf? .formulas supply (do
    let _ ← Parser.many (part (expression (text.length + 1)))
    Reading.blanks) text

end Formulas

end SparqlStream
