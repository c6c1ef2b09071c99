import SparqlStream.Syntax.Terminal

/-!
# Terms from checked parts

Blank nodes and literals from texts that need not be well formed: a label, a language tag.
-/

namespace SparqlStream

/-- The blank node with a label that can be one. -/
def BlankNode.ofLabel? (label : String) : Option BlankNode :=
  let isFirst (c : Char) : Bool := Terminal.isNameStart c || c.isDigit || c = ':'
  match label.toList with
  | c :: rest =>
    if isFirst c && rest.all (fun c => Terminal.isNameChar c || c = ':' || c = '.')
        && (c :: rest).getLast? ≠ some '.' then
      some ⟨label⟩
    else none
  | [] => none

/-- The literal with a text, a language tag and a datatype.  A tag goes with one datatype only. -/
def Literal.ofParts? (value : String) (language : Option String) (datatype : Option Iri) :
    Option Literal :=
  match language, datatype with
  | none, none => some (.simple value)
  | none, some d => some (.ofDatatype value d)
  | some l, d =>
    if d.all (· = Rdf.langString) && LanguageTag.isValid l.toList then
      some (.tagged value (String.ofList (l.toList.map Char.toLower)))
    else none

end SparqlStream
