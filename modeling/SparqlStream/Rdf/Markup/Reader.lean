import SparqlStream.Iri.Reference
import SparqlStream.Rdf.Markup.Basic
import SparqlStream.Unicode.Property

/-!
# Reading graphs as XML

Elements of nodes and elements of properties take turns: in the element of a node stand the
elements of its properties, and in the element of a property stands the element of its object, or
a text.  A property can also hold a list of nodes, the properties of a node without element, or
markup that counts as text.

The reader goes through the events of a document with the elements that are open.  The first
mistake spoils the document.  A node without label gets the next blank node of a supply.
-/

namespace SparqlStream

namespace Markup

open XmlText (Attribute Event)

/-! ## Entities -/

/-- The entities of a document with their values, the last one first. -/
abbrev Entities := List (String × String)

namespace Entities

/-- A text as it is written with values in the place of entities. -/
def value? (es : Entities) (written : String) : Option String :=
  String.ofList <$> XmlText.unescapeWith? (fun n => es.lookup n) none written.toList

/-- The entities with what a piece of a document type declares, if it declares an entity. -/
def declare? (es : Entities) (piece : List Char) : Option Entities :=
  if "!ENTITY".toList.isPrefixOf piece then
    let piece := piece.drop 7
    let trimmed (cs : List Char) : List Char := cs.dropWhile Unicode.isSpace
    let piece :=
      match trimmed piece with
      | '%' :: rest => rest
      | _ => piece
    let isEnd (c : Char) : Bool := c.isWhitespace || c = '\x0c'
    let name := (trimmed piece).takeWhile (!isEnd ·)
    match trimmed ((trimmed piece).dropWhile (!isEnd ·)) with
    | '"' :: rest =>
      match trimmed ((rest.dropWhile (· ≠ '"')).drop 1) with
      | '>' :: _ => do
        let v ← es.value? (String.ofList (rest.takeWhile (· ≠ '"')))
        return (String.ofList name, v) :: es
      | _ => none
    | _ => none
  else some es

/-- The entities that a document type declares. -/
def ofType? (es : Entities) (type : String) : Option Entities :=
  ((type.toList.splitOn '<').drop 1).foldlM declare? es

end Entities

/-- The names of the only encoding in which documents are read. -/
def encodings : List String :=
  ["unicode-1-1-utf-8", "unicode11utf8", "unicode20utf8", "utf-8", "utf8", "x-unicode20utf8"]

/-- Whether a declaration names no other encoding. -/
def isReadable : List Attribute → Bool
  | [] => true
  | none :: _ => false
  | some (n, v) :: rest =>
    if n = "encoding" then encodings.contains (String.ofList (v.toList.map Char.toLower))
    else isReadable rest

/-! ## Names -/

/-- What an element passes on to the elements in it. -/
structure Setting where
  base : Option Iri
  language : Option String
  /-- The name spaces by their short names, as they are written. -/
  spaces : List (String × String)

/-- The parts of a name before and behind its first colon. -/
def nameParts (name : String) : Option String × String :=
  match name.toList.dropWhile (· ≠ ':') with
  | _ :: rest => (some (String.ofList (name.toList.takeWhile (· ≠ ':'))), String.ofList rest)
  | [] => (none, name)

namespace Setting

/-- The name space of attributes that concern all documents. -/
def xmlSpace : String := "http://www.w3.org/XML/1998/namespace"

/-- The name space of declarations. -/
def declarationSpace : String := "http://www.w3.org/2000/xmlns/"

/-- The setting of a document. -/
def empty : Setting := ⟨none, none, [("xml", xmlSpace), ("xmlns", declarationSpace)]⟩

/-- The setting with the name space that an attribute declares.  Two name spaces have fixed short
names. -/
def withSpace (s : Setting) (name v : String) : Option Setting :=
  match nameParts name with
  | (none, "xmlns") => some { s with spaces := ("", v) :: s.spaces }
  | (some "xmlns", "xml") => if v = xmlSpace then some s else none
  | (some "xmlns", space) =>
    if space = "xmlns" || v = xmlSpace || v = declarationSpace then none
    else some { s with spaces := (space, v) :: s.spaces }
  | _ => some s

/-- The setting with the name spaces that attributes declare. -/
def withSpaces (s : Setting) (attributes : List (String × String)) : Option Setting :=
  attributes.foldlM (fun s (n, v) => s.withSpace n v) s

/-- The setting with the language or the base that an attribute gives. -/
def withAttribute (es : Entities) (s : Setting) (name v : String) : Option Setting :=
  match name with
  | "xml:lang" => do
    let l ← es.value? v
    if LanguageTag.isValid l.toList then
      return { s with language := some (String.ofList (l.toList.map Char.toLower)) }
    else none
  | "xml:base" => do return { s with base := some (← Iri.ofText? (← es.value? v)) }
  | _ => some s

/-- The setting inside an element with attributes. -/
def enter (es : Entities) (s : Setting) (attributes : List (String × String)) :
    Option Setting := do
  attributes.foldlM (fun s (n, v) => s.withAttribute es n v) (← s.withSpaces attributes)

/-- The IRI that a name stands for in a name space, which has to be declared. -/
def fullName? (es : Entities) (s : Setting) (space name : String) : Option Iri := do
  let i ← s.spaces.lookup space
  if i.isEmpty then none else Iri.ofText? (← es.value? (i ++ name))

/-- The IRI of an element. -/
def elementName? (es : Entities) (s : Setting) (name : String) : Option Iri :=
  let (space, name) := nameParts name
  s.fullName? es (space.getD "") name

/-- The IRI of an attribute, which needs the short name of its name space. -/
def attributeName? (es : Entities) (s : Setting) (name : String) : Option Iri := do
  let (space, name) := nameParts name
  s.fullName? es (← space) name

end Setting

/-! ## Attributes -/

/-- What is made of the content of a property. -/
inductive ContentKind where
  | plain
  | node
  | list
  | markup (isKept : Bool)
  deriving DecidableEq, Repr

/-- What is made of the content of a property, by name. -/
def ContentKind.ofName : String → ContentKind
  | "Resource" => node
  | "Collection" => list
  | "Literal" => markup true
  | _ => markup false

/-- What the attributes of an element say. -/
structure Attributes where
  id : Option Iri
  label : Option BlankNode
  about : Option Iri
  resource : Option Iri
  datatype : Option Iri
  type : Option Iri
  kind : ContentKind
  /-- Properties and their values. -/
  properties : List (Iri × String)

namespace Attributes

/-- The attributes of an element without attributes. -/
def empty : Attributes := ⟨none, none, none, none, none, none, .plain, []⟩

/-- The attributes of the language that are out of place. -/
def misplaced : List Iri := ["aboutEach", "aboutEachPrefix", "li", "RDF"].map Iri.rdf

/-- Takes an attribute.  What concerns XML alone has no meaning of its own. -/
def add (es : Entities) (s : Setting) (a : Attributes) (name v : String) :
    Option Attributes := do
  if "xml".toList.isPrefixOf name.toList then return a
  let i ← s.attributeName? es name
  let resolved (v : String) : Option Iri := Iri.resolve? s.base v
  if i = .rdf "ID" then
    let n ← es.value? v
    if isName n then return { a with id := some (← resolved ("#" ++ n)) } else none
  else if i = .rdf "bagID" then
    if isName (← es.value? v) then return a else none
  else if i = .rdf "nodeID" then
    let n ← es.value? v
    if isName n then return { a with label := some ⟨n⟩ } else none
  else if i = .rdf "about" then return { a with about := some (← resolved (← es.value? v)) }
  else if i = .rdf "resource" then return { a with resource := some (← resolved (← es.value? v)) }
  else if i = .rdf "datatype" then return { a with datatype := some (← resolved (← es.value? v)) }
  else if i = Rdf.type then return { a with type := some (← resolved (← es.value? v)) }
  else if i = .rdf "parseType" then return { a with kind := .ofName v }
  else if misplaced.contains i then none
  else return { a with properties := a.properties ++ [(i, ← es.value? v)] }

/-- What the attributes of an element say. -/
def read? (es : Entities) (s : Setting) (attributes : List (String × String)) :
    Option Attributes :=
  attributes.foldlM (fun a (n, v) => a.add es s n v) empty

end Attributes

/-! ## Elements -/

/-- A triple without its object, and the name by which other triples speak of it. -/
structure Statement where
  subject : Subject
  predicate : Iri
  id : Option Iri

/-- What has been found in the element of a property. -/
inductive Content where
  | empty
  | text (s : String)
  | node (s : Subject)

/-- Whether a text is white space. -/
def isBlankText (s : String) : Bool := s.toList.all XmlText.isBlank

/-- Whether an object can still be found. -/
def Content.isBlank : Content → Bool
  | empty => true
  | text s => isBlankText s
  | node _ => false

/-- What an element is. -/
inductive Place where
  | outside
  | graph
  /-- A node, with the number of members that it has as a collection. -/
  | node (s : Subject) (items : Nat)
  | property (s : Statement) (datatype : Option Iri) (content : Content)
  /-- A list of nodes, the last one first. -/
  | list (s : Statement) (nodes : List Subject)
  /-- Markup with the number of its elements that are open. -/
  | markup (s : Statement) (isKept : Bool) (depth : Nat) (text : String)

/-- What is known of a document: the elements that are open, the innermost first, the names of
statements and nodes that are taken, the entities, and the triples, the last one first. -/
structure Draft where
  isOpen : List (Place × Setting)
  ids : List Iri
  entities : Entities
  supply : Nat → BlankNode
  next : Nat
  triples : List Triple

/-- Reads an event. -/
abbrev Reader := StateT Draft Option

namespace Reader

/-- Finds a triple. -/
def found (s : Subject) (p : Iri) (o : Term) : Reader Unit :=
  modify fun d => { d with triples := ⟨s, p, o⟩ :: d.triples }

/-- The next node without label. -/
def newNode : Reader BlankNode := do
  let d ← get
  set { d with next := d.next + 1 }
  return d.supply d.next

/-- Takes a name, which has to be a new one. -/
def takeId : Option Iri → Reader Unit
  | none => pure ()
  | some i => do
    let d ← get
    if d.ids.contains i then failure else set { d with ids := i :: d.ids }

/-- Replaces the innermost element. -/
def replace (p : Place) : Reader Unit :=
  modify fun d =>
    match d.isOpen with
    | (_, s) :: outer => { d with isOpen := (p, s) :: outer }
    | [] => d

/-- Opens an element. -/
def enter (p : Place) (s : Setting) : Reader Unit :=
  modify fun d => { d with isOpen := (p, s) :: d.isOpen }

/-- Completes a statement.  If it has a name, four triples describe it. -/
def state (s : Statement) (o : Term) : Reader Unit := do
  if let some i := s.id then
    found (.iri i) Rdf.type (.iri (.rdf "Statement"))
    found (.iri i) (.rdf "subject") s.subject.toTerm
    found (.iri i) (.rdf "predicate") (.iri s.predicate)
    found (.iri i) (.rdf "object") o
  found s.subject s.predicate o

/-- A literal with the language of its setting, unless it has a datatype. -/
def literal (s : Setting) (datatype : Option Iri) (v : String) : Literal :=
  match datatype, s.language with
  | some d, _ => .ofDatatype v d
  | none, some l => .tagged v l
  | none, none => .simple v

/-- Finds the properties that stand in the attributes of an element. -/
def attributed (node : Subject) (s : Setting) (a : Attributes) : Reader Unit := do
  for (p, v) in a.properties do
    found node p (.literal (literal s none v))
  if let some t := a.type then
    found node Rdf.type (.iri t)

/-! ### Start tags -/

/-- Opens the element of a node. -/
def startNode (name : Iri) (s : Setting) (a : Attributes) : Reader Unit := do
  if reserved.contains name then failure
  let node : Subject ←
    match a.id, a.label, a.about with
    | some i, none, none | none, none, some i => pure (.iri i)
    | none, some b, none => pure (.blank b)
    | none, none, none => .blank <$> newNode
    | _, _, _ => failure
  attributed node s a
  if name ≠ description then found node Rdf.type (.iri name)
  enter (.node node 0) s

/-- Opens the element of a property of a node. -/
def startProperty (predicate : Iri) (node : Subject) (s : Setting) (a : Attributes) :
    Reader Unit := do
  let statement : Statement := ⟨node, predicate, a.id⟩
  match a.kind with
  | .plain =>
    if a.resource.isSome || a.label.isSome || !a.properties.isEmpty then
      let object : Subject ←
        match a.resource, a.label with
        | some i, none => pure (.iri i)
        | none, some b => pure (.blank b)
        | none, none => .blank <$> newNode
        | some _, some _ => failure
      attributed object s a
      enter (.property statement a.datatype (.node object)) s
    else enter (.property statement a.datatype .empty) s
  | .node =>
    let object := Subject.blank (← newNode)
    state statement object.toTerm
    enter (.node object 0) s
  | .list => enter (.list statement []) s
  | .markup isKept => enter (.markup statement isKept 0 "") s

/-- A start tag as it is written. -/
def startTag (name : String) (attributes : List (String × String)) : String :=
  "<" ++ name ++ String.join (attributes.map fun (n, v) => " " ++ n ++ "=\"" ++ v ++ "\"") ++ ">"

/-- Reads a start tag. -/
def start (name : String) (attributes : List (String × String)) : Reader Unit := do
  let d ← get
  match d.isOpen with
  | [] => failure
  | (.markup s isKept depth text, setting) :: _ =>
    let _ ← setting.withSpaces attributes
    replace (.markup s isKept (depth + 1) (text ++ startTag name attributes))
  | (place, outer) :: _ =>
    let s ← outer.enter d.entities attributes
    let a ← Attributes.read? d.entities s attributes
    takeId a.id
    let i ← s.elementName? d.entities name
    match place with
    | .node node items =>
      if i = item then
        replace (.node node (items + 1))
        startProperty (.rdf ("_" ++ toString (items + 1))) node s a
      else if i = description || reserved.contains i then failure
      else startProperty i node s a
    | .outside => if i = document then enter .graph s else startNode i s a
    | _ => startNode i s a

/-! ### End tags -/

/-- Finds the triples of a list whose nodes come with the last one first, given what follows. -/
def listNodes (rest : Subject) : List Subject → Reader Subject
  | [] => pure rest
  | n :: before => do
    let b := Subject.blank (← newNode)
    found b Rdf.first n.toTerm
    found b Rdf.rest rest.toTerm
    listNodes b before

/-- Puts a node in the element around it. -/
def place (node : Subject) : Reader Unit := do
  match (← get).isOpen with
  | (.property s datatype content, _) :: _ =>
    if content.isBlank then replace (.property s datatype (.node node)) else failure
  | (.list s nodes, _) :: _ => replace (.list s (node :: nodes))
  | _ => pure ()

/-- Reads an end tag. -/
def finish (name : String) : Reader Unit := do
  let d ← get
  match d.isOpen with
  | [] => failure
  | (.markup s isKept (depth + 1) text, _) :: _ =>
    replace (.markup s isKept depth (text ++ "</" ++ name ++ ">"))
  | (p, setting) :: outer =>
    set { d with isOpen := outer }
    match p with
    | .outside | .graph => pure ()
    | .node n _ => place n
    | .property s _ (.node n) => state s n.toTerm
    | .property s datatype (.text v) => state s (.literal (literal setting datatype v))
    | .property s datatype .empty => state s (.literal (literal setting datatype ""))
    | .list s nodes => state s (← listNodes (.iri Rdf.nil) nodes).toTerm
    | .markup s isKept _ text =>
      if isKept then
        if text.isEmpty then failure else state s (.literal (.typed text (.rdf "XMLLiteral")))

/-! ### Texts -/

/-- Reads a text. -/
def text (v : String) : Reader Unit := do
  match (← get).isOpen with
  | (.markup s isKept depth t, _) :: _ => replace (.markup s isKept depth (t ++ XmlText.escape v))
  | (.property s datatype content, _) :: _ =>
    if content.isBlank then replace (.property s datatype (.text v))
    else if !isBlankText v then failure
  | _ => if !isBlankText v then failure

/-- Reads an event. -/
def event : Event → Reader Unit
  | .start name attributes => do
    let attributes : Option (List (String × String)) := attributes.mapM id
    start name (← attributes)
  | .finish name => finish name
  | .text v => do text (← (← get).entities.value? v)
  | .marked v => text v
  | .declaration attributes => if isReadable attributes then pure () else failure
  | .documentType type => do
    let d ← get
    set { d with entities := ← d.entities.ofType? type }
  | .other => pure ()

/-- Reads events, of which none may be a mistake. -/
def events : List (Option Event) → Reader Unit
  | [] => pure ()
  | none :: _ => failure
  | some e :: rest => do
    event e
    events rest

end Reader

/-- The triples of a document. -/
def read? (supply : Nat → BlankNode) (text : String) : Option (List Triple) := do
  let start : Draft := ⟨[(.outside, .empty)], [], [], supply, 0, []⟩
  let ((), d) ← (Reader.events (XmlText.events text)).run start
  return d.triples.reverse

end Markup

end SparqlStream
