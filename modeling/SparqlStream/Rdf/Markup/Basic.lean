import SparqlStream.Rdf.Term
import SparqlStream.Syntax.Terminal
import SparqlStream.Syntax.Xml

/-!
# Graphs as XML

What writing graphs as XML and reading them share: names, and the IRIs of the language itself.
-/

namespace SparqlStream

namespace Markup

/-- The name space of the elements that all documents share. -/
def rdfSpace : String := (Iri.rdf "").text

/-- Whether a character can stand behind the first one in a name without colon. -/
def isNameChar (c : Char) : Bool := Terminal.isNameChar c || c = '.'

/-- Whether a text is a name without colon. -/
def isName (s : String) : Bool :=
  match s.toList with
  | c :: rest => Terminal.isNameStart c && rest.all isNameChar
  | [] => false

/-- The element of a whole document. -/
def document : Iri := .rdf "RDF"

/-- The element of a node without type. -/
def description : Iri := .rdf "Description"

/-- The element of the next member of a collection. -/
def item : Iri := .rdf "li"

/-- The IRIs that name neither an element of a node nor the element of a property. -/
def reserved : List Iri :=
  ["RDF", "ID", "about", "parseType", "resource", "nodeID", "datatype", "li", "aboutEach",
    "aboutEachPrefix", "bagID"].map Iri.rdf

/-- The IRIs that no element is named after when a graph is written. -/
def unwritable : List Iri :=
  ["Description", "li", "RDF", "ID", "about", "parseType", "resource", "nodeID",
    "datatype"].map Iri.rdf

end Markup

end SparqlStream
