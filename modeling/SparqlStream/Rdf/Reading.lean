import SparqlStream.Rdf.Token
import SparqlStream.Syntax.Parser

/-!
# Reading documents

What the readers of documents share: a base and prefixes that are declared, a supply of nodes
without label, and terms that are one word or a few.
-/

namespace SparqlStream

namespace Reading

/-- What reading a document knows, and the triples that it has found, the last one first. -/
structure Context where
  dialect : Dialect
  base : Option Iri
  declared : List (String × String)
  supply : Nat → BlankNode
  next : Nat
  triples : List Triple

/-- Reads a part of a document. -/
abbrev Reader := Parser Char Context

/-! ## Words -/

/-- What is left behind blanks and comments. -/
def behindBlanks (inComment : Bool) : List Char → List Char
  | [] => []
  | c :: cs =>
    if inComment then behindBlanks (c ≠ '\n' && c ≠ '\r') cs
    else if Terminal.isBlank c then behindBlanks false cs
    else if c = '#' then behindBlanks true cs
    else c :: cs

/-- Reads blanks and comments. -/
def blanks : Reader Unit := do Parser.jump (behindBlanks false (← Parser.rest))

/-- Reads a word.  In documents of lines only spaces and tabs precede it. -/
def token : Reader RdfToken := do
  let c ← get
  let cs ← Parser.rest
  let cs := if c.dialect = .lines then cs.dropWhile fun c => c = ' ' || c = '\t'
    else behindBlanks false cs
  let (t, rest) ← Parser.ofOption (RdfToken.first? c.dialect c.base cs)
  Parser.jump rest
  return t

/-- Reads a mark. -/
def mark (m : String) : Reader Unit := do Parser.check ((← token) = .mark m)

/-- Reads a keyword. -/
def keyword (k : String) : Reader Unit := do Parser.check ((← token) = .keyword k)

/-- Reads a keyword, whatever the case of its letters. -/
def keywordInAnyCase (k : String) : Reader Unit := do
  match ← token with
  | .keyword w => Parser.check (w.toList.map Char.toLower = k.toList.map Char.toLower)
  | _ => failure

/-! ## Terms -/

/-- Whether a prefix is a whole IRI up to its path, so that what follows may belong to another
part. -/
def hasNoPath (base : String) : Bool := (IriReference.ofText base.toList).path.isEmpty

/-- The IRI that a name stands for.  It need not be well formed unless there is reason to doubt
it. -/
def named (space part : String) (isDoubtful : Bool) : Reader Iri := do
  let base ← Parser.ofOption ((← get).declared.lookup space)
  let i : Iri := ⟨base ++ part⟩
  Parser.check (!(isDoubtful || hasNoPath base) || (Iri.ofText? i.text).isSome)
  return i

/-- Reads an IRI. -/
def iri : Reader Iri := do
  match ← token with
  | .iri i => return i
  | .name space part isDoubtful => named space part isDoubtful
  | _ => failure

/-- Reads an IRI between brackets. -/
def bracketedIri : Reader Iri := do
  match ← token with
  | .iri i => return i
  | _ => failure

/-- Reads what follows the value of a literal. -/
def suffixed (value : String) : Reader Literal :=
  Parser.firstOf
    [ (do
        match ← token with
        | .tag l => return .tagged value (String.ofList (l.toList.map Char.toLower))
        | _ => failure),
      (do mark "^^"; return .ofDatatype value (← iri)),
      pure (.simple value) ]

/-- Reads the rest of a term that begins with a word. -/
def termFrom : RdfToken → Reader Term
  | .iri i => return .iri i
  | .name space part isDoubtful => .iri <$> named space part isDoubtful
  | .node label => return .blank ⟨label⟩
  | .string value => .literal <$> suffixed value
  | .number kind written => return .literal (.typed written kind.datatype)
  | .keyword "true" => return .literal (.ofBool true)
  | .keyword "false" => return .literal (.ofBool false)
  | _ => failure

/-- The next node without label. -/
def newNode : Reader BlankNode := do
  let c ← get
  set { c with next := c.next + 1 }
  return c.supply c.next

/-- Finds a triple. -/
def found (t : Triple) : Reader Unit := modify fun c => { c with triples := t :: c.triples }

/-! ## Declarations -/

/-- Declares a name. -/
def declareName : Reader Unit := do
  match ← token with
  | .name space "" _ =>
    let i ← bracketedIri
    modify fun c => { c with declared := (space, i.text) :: c.declared }
  | _ => failure

/-- Declares the base. -/
def declareBase : Reader Unit := do
  let i ← bracketedIri
  modify fun c => { c with base := some i }

/-- Reads a declaration that needs no point. -/
def openDeclaration : Reader Unit :=
  (do keywordInAnyCase "prefix"; declareName) <|> (do keywordInAnyCase "base"; declareBase)

/-- Reads a declaration that a point has to follow. -/
def closedDeclaration : Reader Unit := do
  match ← token with
  | .tag "prefix" => declareName
  | .tag "base" => declareBase
  | _ => failure

/-! ## Documents -/

/-- The triples that a reader of a whole document finds. -/
def triplesOf? (dialect : Dialect) (supply : Nat → BlankNode) (document : Reader Unit)
    (text : String) : Option (List Triple) :=
  let all : Reader (List Triple) := do
    document
    return (← get).triples.reverse
  Parser.run? all ⟨dialect, none, [], supply, 0, []⟩ text.toList

end Reading

end SparqlStream
