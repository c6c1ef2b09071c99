import SparqlStream.Rdf.Fresh
import SparqlStream.Rdf.Reading

/-!
# Documents of lines

Reads documents that write each triple in full and on a line of its own: a subject, a predicate, an
object, the name of a graph where that is allowed, and a point.  Triples of named graphs count like
all others.
-/

namespace SparqlStream

namespace Lines

open Reading (Reader token mark)

/-- Reads spaces and a comment. -/
def margin : Reader Unit := do
  let _ ← Parser.takeWhile fun c => c = ' ' || c = '\t'
  let _ ← Parser.optionally do
    Parser.exactly '#'
    Parser.takeWhile fun c => c ≠ '\n' && c ≠ '\r'

/-- Reads the end of a line. -/
def lineEnd : Reader Unit := do
  margin
  let _ ← Parser.satisfy fun c => c = '\n' || c = '\r'

/-- Reads the end of the last line. -/
def lastEnd : Reader Unit := do
  margin
  Parser.finished

/-- Reads a subject. -/
def subject : Reader Subject := do
  match ← token with
  | .iri i => return .iri i
  | .node label => return .blank ⟨label⟩
  | _ => failure

/-- Reads an object. -/
def object : Reader Term := do
  match ← token with
  | .iri i => return .iri i
  | .node label => return .blank ⟨label⟩
  | .string value => .literal <$> Reading.suffixed value
  | _ => failure

/-- Reads a triple. -/
def triple (named : Bool) : Reader Unit := do
  Reading.found ⟨← subject, ← Reading.bracketedIri, ← object⟩
  if named then
    let _ ← Parser.optionally subject
  mark "."

/-- The triples of a document. -/
def read? (named : Bool) : String → Option (List Triple) :=
  Reading.triplesOf? .lines BlankNode.fresh do
    let _ ← Parser.many (lineEnd <|> (do triple named; lineEnd <|> lastEnd))
    lastEnd

end Lines

end SparqlStream
