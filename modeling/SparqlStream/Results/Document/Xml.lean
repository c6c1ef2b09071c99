import SparqlStream.Rdf.Fresh
import SparqlStream.Results.Document.Basic
import SparqlStream.Syntax.Xml

/-!
# XML as results

Reads an element with a head and a list of rows, or with a boolean.  Rows are read one by one:
every event that does not fit is an error among the rows, and reading goes on at the next event.
-/

namespace SparqlStream

namespace Xml

open XmlText (Attribute Event localName unescape?)

/-! ## Heads -/

/-- Where reading stands before the rows. -/
inductive HeadPlace where
  | start
  | document
  | head
  | behindHead
  | boolean

/-- The value of the first attribute with a local name.  Mistakes among the attributes do not
count. -/
def attribute? (name : String) (attributes : List Attribute) : Option String := do
  let (_, v) ← (attributes.filterMap id).find? fun a => localName a.1 = name
  unescape? v

/-- What reading the beginning of a document comes to. -/
inductive HeadOutcome where
  | boolean (b : Bool)
  | rows (columns : List Variable) (rest : List (Option Event))

/-- Reads a document up to its rows.  Every mistake spoils the document. -/
def readHead (columns : List Variable) (p : HeadPlace) : List (Option Event) → Option HeadOutcome
  | [] | none :: _ => none
  | some e :: rest =>
    match p, e with
    | .start, .start n _ => if localName n = "sparql" then readHead columns .document rest else none
    | .document, .start n _ => if localName n = "head" then readHead columns .head rest else none
    | .head, .start n attributes =>
      if localName n = "variable" then do
        let name ← attribute? "name" attributes
        readHead (← ListedResults.addColumn? columns name) .head rest
      else if localName n = "link" then readHead columns .head rest
      else none
    | .head, .finish n =>
      readHead columns (if localName n = "head" then .behindHead else .head) rest
    | .behindHead, .start n _ =>
      if localName n = "boolean" then readHead columns .boolean rest
      else if localName n = "results" then some (.rows columns rest)
      else none
    | .boolean, .text s =>
      match unescape? s with
      | some "true" => some (.boolean true)
      | some "false" => some (.boolean false)
      | _ => none
    | p, .other | p, .declaration _ | p, .documentType _ => readHead columns p rest
    | _, _ => none

/-! ## Rows -/

/-- The elements of rows.  A part of a triple is read like a cell. -/
inductive RowElement where
  | outer
  | row
  | cell
  | uri
  | bnode
  | literal
  | triple
  | part
  deriving DecidableEq, Repr

/-- What is known of a row: the elements that are open, the innermost first, the cells, the last
one first, the name of the cell at hand, and its term.  A term that has found no cell waits for the
next one, and so do a language and a datatype without literal. -/
structure RowDraft where
  isOpen : List RowElement
  cells : NamedRow
  name : String
  term : Option Term
  language : Option String
  datatype : Option Iri

namespace RowDraft

/-- Nothing is known, inside the element of the rows. -/
def empty : RowDraft := ⟨[.outer, .outer], [], "", none, none, none⟩

/-- Opens an element. -/
def enter (d : RowDraft) (e : RowElement) : RowDraft × ReadProgress NamedRow :=
  ({ d with isOpen := e :: d.isOpen }, .more)

/-- Takes the attributes of a literal up to a mistake, and says whether there is one. -/
def withAttributes (d : RowDraft) : List Attribute → RowDraft × Bool
  | [] => (d, false)
  | none :: _ => (d, true)
  | some (n, v) :: rest =>
    if n = "xml:lang" then
      match unescape? v with
      | some l => withAttributes { d with language := some l } rest
      | none => (d, true)
    else if localName n = "datatype" then
      match (unescape? v).bind Iri.ofText? with
      | some i => withAttributes { d with datatype := some i } rest
      | none => (d, true)
    else withAttributes d rest

/-- Opens the element of a term, of which there may be only one. -/
def startTerm (d : RowDraft) (name : String) (attributes : List Attribute) :
    RowDraft × ReadProgress NamedRow :=
  if d.term.isSome then (d, .wrong)
  else
    match localName name with
    | "uri" => d.enter .uri
    | "bnode" => d.enter .bnode
    | "triple" => d.enter .triple
    | "literal" =>
      match d.withAttributes attributes with
      | (d, false) => d.enter .literal
      | (d, true) => (d, .wrong)
    | _ => (d, .wrong)

/-- Reads a start tag. -/
def start (d : RowDraft) (name : String) (attributes : List Attribute) :
    RowDraft × ReadProgress NamedRow :=
  match d.isOpen with
  | .outer :: _ =>
    if localName name = "result" then { d with cells := [] }.enter .row else (d, .wrong)
  | .row :: _ =>
    match localName name, attribute? "name" attributes with
    | "binding", some v => { d with name := v }.enter .cell
    | _, _ => (d, .wrong)
  | .cell :: _ | .part :: _ => d.startTerm name attributes
  | .triple :: _ =>
    if ["subject", "predicate", "object"].contains (localName name) then d.enter .part
    else (d, .wrong)
  | _ => (d, .wrong)

/-- Takes a term. -/
def withTerm (d : RowDraft) (t : Option Term) : RowDraft × ReadProgress NamedRow :=
  match t with
  | some t => ({ d with term := some t }, .more)
  | none => (d, .wrong)

/-- Takes the text of a literal. -/
def withLiteral (d : RowDraft) (value : String) : RowDraft × ReadProgress NamedRow :=
  { d with language := none, datatype := none }.withTerm
    (.literal <$> Literal.ofParts? value d.language d.datatype)

/-- Reads a text. -/
def text (d : RowDraft) (s : String) : RowDraft × ReadProgress NamedRow :=
  match unescape? s, d.isOpen with
  | some v, .uri :: _ => d.withTerm (.iri <$> Iri.ofText? v)
  | some v, .bnode :: _ => d.withTerm (.blank <$> BlankNode.ofLabel? v)
  | some v, .literal :: _ => d.withLiteral v
  | _, _ => (d, .wrong)

/-- The row with the term as its cell, which may be empty. -/
def withCell (d : RowDraft) : RowDraft :=
  let others := d.cells.filter (·.1 ≠ d.name)
  { d with cells := d.term.elim others fun t => (d.name, t) :: others, term := none }

/-- Reads an end tag.  A literal without text has an empty text, a blank node without text is a new
one, and there are no terms that are triples. -/
def finish (isKnown : String → Bool) (d : RowDraft) : RowDraft × ReadProgress NamedRow :=
  match d.isOpen with
  | [] => (d, .wrong)
  | e :: outer =>
    let d := { d with isOpen := outer }
    match e with
    | .outer | .uri => (d, .more)
    | .row => ({ d with cells := [] }, .complete d.cells)
    | .cell => if isKnown d.name then (d.withCell, .more) else (d, .wrong)
    | .bnode => ({ d with term := d.term.or (some (.blank (.fresh 0))) }, .more)
    | .literal => if d.term.isSome then (d, .more) else d.withLiteral ""
    | .part => ({ d with term := none }, .more)
    | .triple => (d, .wrong)

/-- Reads an event of the rows. -/
def read (isKnown : String → Bool) (d : RowDraft) : Event → RowDraft × ReadProgress NamedRow
  | .start n attributes => d.start n attributes
  | .text s => d.text s
  | .finish _ => d.finish isKnown
  | .other | .declaration _ | .documentType _ => (d, .more)
  | .marked _ => (d, .wrong)

/-- The rows that events are, and the mistakes between them. -/
def readAll (isKnown : String → Bool) (d : RowDraft) : List (Option Event) → List (Option NamedRow)
  | [] => []
  | none :: rest => none :: readAll isKnown d rest
  | some e :: rest =>
    match d.read isKnown e with
    | (d, .more) => readAll isKnown d rest
    | (d, .complete row) => some row :: readAll isKnown d rest
    | (d, .wrong) => none :: readAll isKnown d rest

end RowDraft

/-- The results that a text is. -/
def read? (text : String) : Option ListedResults := do
  match ← readHead [] .start (XmlText.trimmedEvents text) with
  | .boolean b => return .ofBoolean b
  | .rows columns rest =>
    let isKnown (n : String) : Bool := columns.any (·.name = n)
    return .ofRows columns (RowDraft.empty.readAll isKnown rest)

end Xml

end SparqlStream
