import SparqlStream.Rdf.Formulas
import SparqlStream.Rdf.Lines
import SparqlStream.Rdf.Linked.Reader
import SparqlStream.Rdf.Linked.Writer
import SparqlStream.Rdf.Markup.Reader
import SparqlStream.Rdf.Markup.Writer
import SparqlStream.Rdf.MediaType
import SparqlStream.Rdf.Turtle

/-!
# Formats of documents

The formats in which graphs are read and written, and the names by which they are known: the
extensions of files and the types of media.
-/

namespace SparqlStream

/-- The formats of documents. -/
inductive RdfFormat where
  | nTriples
  | nQuads
  | turtle
  | triG
  | n3
  | rdfXml
  | jsonLd
  deriving DecidableEq, Repr

namespace RdfFormat

/-- The extensions of files. -/
def extensions : List (String × RdfFormat) :=
  [("json", jsonLd), ("jsonld", jsonLd), ("n3", n3), ("nq", nQuads), ("nt", nTriples),
    ("rdf", rdfXml), ("trig", triG), ("ttl", turtle), ("txt", nTriples), ("xml", rdfXml)]

/-- The types of media. -/
def subtypes : List (String × RdfFormat) :=
  [("activity+json", jsonLd), ("json", jsonLd), ("ld+json", jsonLd), ("jsonld", jsonLd),
    ("n-quads", nQuads), ("n-triples", nTriples), ("n3", n3), ("nquads", nQuads),
    ("ntriples", nTriples), ("plain", nTriples), ("rdf+xml", rdfXml), ("trig", triG),
    ("turtle", turtle), ("xml", rdfXml)]

/-- The format of files with an extension. -/
def ofExtension? (extension : String) : Option RdfFormat := lookupFolded? extensions extension

/-- The sets of characters that documents may be said to use. -/
def charsets : List String := ["ascii", "utf8", "utf-8"]

/-- Whether a parameter of a type of media can be followed. -/
def admits (parameter : String × String) : Bool :=
  parameter.1 ≠ "charset" || charsets.any (sameFolded parameter.2)

/-- The format with a type of media. -/
def ofMediaType? (text : String) : Option RdfFormat := do
  let format ← lookupFolded? subtypes (← MediaType.subtype? text)
  if (← MediaType.parameters? text).all admits then format else none

/-- The format with a name, which is an extension or a type of media. -/
def ofName? (name : String) : Option RdfFormat := (ofExtension? name).or (ofMediaType? name)

/-- How a format is written. -/
def writer : RdfFormat → GraphFormat
  | nTriples | nQuads => .lines
  | turtle | triG | n3 => .grouped
  | rdfXml => .markup
  | jsonLd => .linked

/-- The triples of a document.  Nodes without label get blank nodes of a supply. -/
def read? (supply : Nat → BlankNode) : RdfFormat → String → Option (List Triple)
  | nTriples => Lines.read? false
  | nQuads => Lines.read? true
  | turtle => Turtle.read? false supply
  | n3 => Formulas.read? supply
  | triG => Turtle.read? true supply
  | rdfXml => Markup.read? supply
  | jsonLd => Linked.read? supply

end RdfFormat

end SparqlStream
