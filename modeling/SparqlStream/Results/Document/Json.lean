import SparqlStream.Results.Document.Basic
import SparqlStream.Syntax.Json

/-!
# JSON as results

Reads an object with a head and a list of rows, or with a boolean.  If the rows come before the
head they are read as a whole.  If they come behind it they are read one by one: every event that
does not fit is an error among the rows, and reading goes on at the next event, so one mistake may
lead to several errors.
-/

namespace SparqlStream

namespace Json

open JsonText (Event)

/-! ## Terms -/

/-- The kinds of terms. -/
inductive TermKind where
  | uri
  | bnode
  | literal

/-- The kind of term with a name. -/
def TermKind.ofName? (name : String) : Option TermKind :=
  if name = "uri" then some uri
  else if name = "bnode" then some bnode
  else if name = "literal" || name = "typed-literal" then some literal
  else none

/-- Where reading stands in a term. -/
inductive TermPlace where
  | outside
  | inside
  | kind
  | value
  | language
  | datatype

/-- What is known of a term. -/
structure TermParts where
  place : TermPlace
  kind : Option TermKind
  value : Option String
  language : Option String
  datatype : Option Iri

namespace TermParts

/-- Nothing is known. -/
def empty : TermParts := ⟨.outside, none, none, none, none⟩

/-- The term of what is known. -/
def term? (t : TermParts) : Option Term := do
  match ← t.kind with
  | .uri => .iri <$> Iri.ofText? (← t.value)
  | .bnode => .blank <$> BlankNode.ofLabel? (← t.value)
  | .literal => .literal <$> Literal.ofParts? (← t.value) t.language t.datatype

/-- What is left when a term has ended.  A datatype beside a language tag is kept. -/
def ended (t : TermParts) : TermParts :=
  match t.kind with
  | none => { t with place := .outside }
  | some .literal =>
    if t.value.isNone then { t with place := .outside, kind := none }
    else if t.language.isSome then { empty with datatype := t.datatype }
    else empty
  | some _ => { t with place := .outside, kind := none, value := none }

/-- Reads an event of a term. -/
def read (t : TermParts) (e : Event) : TermParts × ReadProgress Term :=
  match t.place, e with
  | .outside, .startObject => ({ t with place := .inside }, .more)
  | .outside, _ => (t, .wrong)
  | .inside, .key k =>
    if k = "type" then ({ t with place := .kind }, .more)
    else if k = "value" then ({ t with place := .value }, .more)
    else if k = "xml:lang" then ({ t with place := .language }, .more)
    else if k = "datatype" then ({ t with place := .datatype }, .more)
    else (t, .wrong)
  | .inside, .endObject => (t.ended, t.term?.elim .wrong .complete)
  | .inside, _ => (t, .wrong)
  | .kind, .string s =>
    match TermKind.ofName? s with
    | some k => ({ t with place := .inside, kind := some k }, .more)
    | none => ({ t with place := .inside }, .wrong)
  | .value, .string s => ({ t with place := .inside, value := some s }, .more)
  | .language, .string s => ({ t with place := .inside, language := some s }, .more)
  | .datatype, .string s =>
    match Iri.ofText? s with
    | some i => ({ t with place := .inside, datatype := some i }, .more)
    | none => ({ t with place := .inside }, .wrong)
  | _, _ => ({ t with place := .inside }, .wrong)

end TermParts

/-! ## Rows -/

/-- Where reading stands among rows. -/
inductive RowPlace where
  | between
  | row (cells : NamedRow)
  | term (cells : NamedRow) (name : String) (t : TermParts)
  | behind
  | done

namespace RowPlace

/-- Reads an event of the rows.  A key has to be the name of a known column. -/
def read (isKnown : String → Bool) (p : RowPlace) (e : Event) : RowPlace × ReadProgress NamedRow :=
  match p, e with
  | between, .startObject => (row [], .more)
  | between, .endArray => (behind, .more)
  | between, _ => (between, .wrong)
  | row cells, .key k => if isKnown k then (term cells k .empty, .more) else (row cells, .wrong)
  | row cells, .endObject => (between, .complete cells)
  | row cells, _ => (row cells, .wrong)
  | term cells name t, e =>
    match t.read e with
    | (_, .complete a) => (row ((name, a) :: cells), .more)
    | (t, .more) => (term cells name t, .more)
    | (t, .wrong) => (term cells name t, .wrong)
  | behind, .endObject => (done, .more)
  | behind, _ => (behind, .wrong)
  | done, .endObject => (done, .more)
  | done, _ => (done, .wrong)

/-- The rows that events are, and the mistakes between them. -/
def readAll (isKnown : String → Bool) (p : RowPlace) : List (Option Event) → List (Option NamedRow)
  | [] => []
  | none :: rest => none :: readAll isKnown p rest
  | some e :: rest =>
    match p.read isKnown e with
    | (p, .more) => readAll isKnown p rest
    | (p, .complete cells) => some cells :: readAll isKnown p rest
    | (p, .wrong) => none :: readAll isKnown p rest

end RowPlace

/-! ## Documents -/

/-- Where reading stands in a document. -/
inductive Place where
  | start
  | document
  | beforeHead
  | head
  | beforeColumns
  | columns
  | beforeLinks
  | links
  | beforeResults
  | results
  | beforeRows
  | rows (p : RowPlace)
  | behindRows
  | beforeBoolean

/-- What is known of a document: its columns so far, whether they have been named, and the rows if
they have come before the columns. -/
structure Draft where
  place : Place
  columns : List Variable
  isNamed : Bool
  rows : Option (List NamedRow)

namespace Draft

/-- Nothing is known. -/
def empty : Draft := ⟨.start, [], false, none⟩

/-- Whether a place has members that carry no meaning. -/
def skips (p : Place) (k : String) : Bool :=
  match p with
  | .document => k ≠ "head" && k ≠ "results" && k ≠ "boolean"
  | .head => k ≠ "vars" && k ≠ "links"
  | .results => k ≠ "bindings"
  | .behindRows => true
  | _ => false

/-- The results of rows that have come before the columns. -/
def buffered (d : Draft) (rows : List NamedRow) : ListedResults :=
  let isKnown (cell : String × Term) : Bool := d.columns.any (·.name = cell.1)
  .ofRows d.columns (rows.map fun row => if row.all isKnown then some row else none)

/-- Goes to another place. -/
def goTo (d : Draft) (p : Place) : Draft × ReadProgress ListedResults :=
  ({ d with place := p }, .more)

/-- Reads an event of a document, up to the beginning of the rows if the columns are known. -/
def read (d : Draft) (e : Event) : Draft × ReadProgress ListedResults :=
  match d.place, e with
  | .start, .startObject => d.goTo .document
  | .document, .key k =>
    if k = "head" then d.goTo .beforeHead
    else if k = "results" then d.goTo .beforeResults
    else d.goTo .beforeBoolean
  | .beforeHead, .startObject => d.goTo .head
  | .head, .key k =>
    if k = "vars" then ({ d with place := .beforeColumns, isNamed := true }, .more)
    else d.goTo .beforeLinks
  | .head, .endObject => d.goTo .document
  | .beforeColumns, .startArray => d.goTo .columns
  | .columns, .string s =>
    match ListedResults.addColumn? d.columns s with
    | some vs => ({ d with columns := vs }, .more)
    | none => (d, .wrong)
  | .columns, .endArray =>
    match d.rows with
    | some rows => (d, .complete (d.buffered rows.reverse))
    | none => d.goTo .head
  | .beforeLinks, .startArray => d.goTo .links
  | .links, .string _ => (d, .more)
  | .links, .endArray => d.goTo .head
  | .beforeResults, .startObject => d.goTo .results
  | .results, .key _ => d.goTo .beforeRows
  | .beforeRows, .startArray =>
    ({ d with place := .rows .between, rows := some (d.rows.getD []) }, .more)
  | .rows p, e =>
    match p.read (fun _ => true) e with
    | (.behind, _) => d.goTo .behindRows
    | (p, .more) => d.goTo (.rows p)
    | (p, .complete row) =>
      ({ d with place := .rows p, rows := some (row :: d.rows.getD []) }, .more)
    | (_, .wrong) => (d, .wrong)
  | .behindRows, .endObject => d.goTo .document
  | .beforeBoolean, .boolean b => (d, .complete (.ofBoolean b))
  | _, _ => (d, .wrong)

end Draft

/-- The events behind a value that may hold other values, of which some are open. -/
def skipValue (isOpen : Nat) : List (Option Event) → Option (List (Option Event))
  | some .startArray :: rest | some .startObject :: rest => skipValue (isOpen + 1) rest
  | some .endArray :: rest | some .endObject :: rest =>
    if isOpen ≤ 1 then some rest else skipValue (isOpen - 1) rest
  | some _ :: rest => if isOpen = 0 then some rest else skipValue isOpen rest
  | none :: _ | [] => none

/-- The results that events are.  Mistakes before the rows spoil everything.  The limit is a number
of events. -/
def readEvents (d : Draft) : (limit : Nat) → List (Option Event) → Option ListedResults
  | limit + 1, some e :: rest =>
    match d.place, e with
    | .beforeRows, .startArray =>
      if d.isNamed then
        let isKnown (k : String) : Bool := d.columns.any (·.name = k)
        some (.ofRows d.columns (RowPlace.between.readAll isKnown rest))
      else readEvents (d.read e).1 limit rest
    | p, .key k =>
      if Draft.skips p k then do readEvents d limit (← skipValue 0 rest)
      else
        match d.read e with
        | (d, .more) => readEvents d limit rest
        | (_, .complete r) => some r
        | (_, .wrong) => none
    | _, e =>
      match d.read e with
      | (d, .more) => readEvents d limit rest
      | (_, .complete r) => some r
      | (_, .wrong) => none
  | _, _ => none

/-- The results that a text is. -/
def read? (text : String) : Option ListedResults :=
  let events := JsonText.events text
  readEvents .empty (events.length + 1) events

end Json

end SparqlStream
