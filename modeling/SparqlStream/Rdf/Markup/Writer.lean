import SparqlStream.Rdf.Document
import SparqlStream.Rdf.Markup.Basic

/-!
# Writing graphs as XML

A document has an element for each run of triples with the same subject, and in it an element for
each triple.  The element of a subject is named after its type if its first triple gives one.
-/

namespace SparqlStream

namespace Markup

open XmlText (escape)

/-- The name of an element for an IRI, and the declaration of a name space that it needs. -/
def elementName (i : Iri) : String × String :=
  let cs := i.text.toList
  let tail := (cs.reverse.takeWhile isNameChar).reverse
  let name := if tail.length = cs.length then [] else tail.dropWhile (!Terminal.isNameStart ·)
  let space := String.ofList (cs.take (cs.length - name.length))
  let name := String.ofList name
  if space = rdfSpace then ("rdf:" ++ name, "")
  else if space = "http://www.w3.org/2000/xmlns/" then ("xmlns:" ++ name, "")
  else if name.isEmpty then ("oxprefix:", " xmlns:oxprefix=\"" ++ escape space ++ "\"")
  else (name, " xmlns=\"" ++ escape space ++ "\"")

/-- The type after which the element of a subject is named, given its first triple. -/
def elementType? (t : Triple) : Option Iri :=
  if t.predicate = Rdf.type then
    t.object.toIri?.filter (!unwritable.contains ·)
  else none

/-- The first triple of the run that the last triple belongs to. -/
def runStart : Triple → List Triple → Triple
  | t, [] => t
  | t, b :: before => if b.subject = t.subject then runStart b before else t

/-- The name of the element of a subject, given the first triple of its run. -/
def subjectName (t : Triple) : String × String :=
  (elementType? t).elim ("rdf:Description", "") elementName

/-- The beginning of the element of a subject. -/
def openSubject (t : Triple) : String :=
  let (name, declaration) := subjectName t
  let node :=
    match t.subject with
    | .iri i => " rdf:about=\"" ++ escape i.text ++ "\""
    | .blank b => " rdf:nodeID=\"" ++ escape b.label ++ "\""
  "\n\t<" ++ name ++ declaration ++ node ++ ">"

/-- The end of the element of a subject, given all triples up to its last one. -/
def closeSubject : List Triple → String
  | [] => ""
  | t :: before => "\n\t</" ++ (subjectName (runStart t before)).1 ++ ">"

/-- The element of a predicate with its object. -/
def property (t : Triple) : String :=
  let (name, declaration) := elementName t.predicate
  let tag := "\n\t\t<" ++ name ++ declaration
  let content (note value : String) : String :=
    tag ++ note ++ ">" ++ escape value ++ "</" ++ name ++ ">"
  match t.object with
  | .iri i => tag ++ " rdf:resource=\"" ++ escape i.text ++ "\"/>"
  | .blank b => tag ++ " rdf:nodeID=\"" ++ escape b.label ++ "\"/>"
  | .literal (.simple v) => content "" v
  | .literal (.tagged v l) => content (" xml:lang=\"" ++ escape l ++ "\"") v
  | .literal (.typed v d) => content (" rdf:datatype=\"" ++ escape d.text ++ "\"") v

/-- The beginning of a document. -/
def opening : String :=
  "<?xml version=\"1.0\" encoding=\"UTF-8\"?>\n<rdf:RDF xmlns:rdf=\"" ++ rdfSpace ++ "\">"

end Markup

/-- Triples as XML. -/
def GraphFormat.markup : GraphFormat where
  reserves p := Markup.unwritable.contains p
  triple before t :=
    let isNew := before.head?.all fun b => b.subject ≠ t.subject
    let beginning := if before.isEmpty then Markup.opening else ""
    let subject := if isNew then Markup.closeSubject before ++ Markup.openSubject t else ""
    let isNamed := isNew && (Markup.elementType? t).isSome
    beginning ++ subject ++ (if isNamed then "" else Markup.property t)
  closing before :=
    (if before.isEmpty then Markup.opening else Markup.closeSubject before) ++ "\n</rdf:RDF>"

end SparqlStream
