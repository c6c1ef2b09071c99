/-!
# Terms, triples and patterns

The data that queries talk about.  A term is an IRI, a blank node or a literal; a triple is made
of terms, with only IRIs and blank nodes as its subject and only an IRI as its predicate.  A
pattern is a triple in which variables may stand, and in which a literal is allowed as the
subject because a query can ask for one, although no triple has one.

Nothing is checked or normalised here: two terms are the same exactly when they are built from
the same texts.  The one exception is the datatype `xsd:string`, which `Literal.ofDatatype` turns
into a simple literal.
-/

namespace SparqlStream

/-- An IRI, identified by its text. -/
structure Iri where
  text : String
  deriving DecidableEq, Repr, Inhabited, Hashable

/-- A blank node, identified by its label. -/
structure BlankNode where
  label : String
  deriving DecidableEq, Repr, Inhabited, Hashable

/-- A variable, identified by its name without the question mark. -/
structure Variable where
  name : String
  deriving DecidableEq, Repr, Inhabited, Hashable

/-! ## The vocabulary that the library knows -/

/-- An IRI of the XML Schema datatypes. -/
def Iri.xsd (name : String) : Iri := ⟨"http://www.w3.org/2001/XMLSchema#" ++ name⟩

/-- An IRI of the RDF vocabulary. -/
def Iri.rdf (name : String) : Iri := ⟨"http://www.w3.org/1999/02/22-rdf-syntax-ns#" ++ name⟩

namespace Xsd

def string : Iri := .xsd "string"
def boolean : Iri := .xsd "boolean"
def integer : Iri := .xsd "integer"
def decimal : Iri := .xsd "decimal"
def float : Iri := .xsd "float"
def double : Iri := .xsd "double"

end Xsd

namespace Rdf

def type : Iri := .rdf "type"
def first : Iri := .rdf "first"
def rest : Iri := .rdf "rest"
def nil : Iri := .rdf "nil"
def langString : Iri := .rdf "langString"

end Rdf

/-! ## Literals and terms -/

/-- A literal: a text alone, a text with a language tag, or a text with a datatype. -/
inductive Literal where
  | simple (value : String)
  | tagged (value language : String)
  | typed (value : String) (datatype : Iri)
  deriving DecidableEq, Repr, Inhabited, Hashable

namespace Literal

/-- The literal of a text and a datatype.  A string is a simple literal. -/
def ofDatatype (value : String) (datatype : Iri) : Literal :=
  if datatype = Xsd.string then .simple value else .typed value datatype

/-- The lexical form. -/
def value : Literal → String
  | simple v | tagged v _ | typed v _ => v

/-- The datatype, which a simple or tagged literal has without naming it. -/
def datatype : Literal → Iri
  | simple _ => Xsd.string
  | tagged _ _ => Rdf.langString
  | typed _ d => d

/-- The language tag of a tagged literal. -/
def language? : Literal → Option String
  | tagged _ l => some l
  | _ => none

/-- The literal of a truth value. -/
def ofBool (b : Bool) : Literal := .typed (if b then "true" else "false") Xsd.boolean

/-- The literal of an integer. -/
def ofInt (i : Int) : Literal := .typed (toString i) Xsd.integer

end Literal

/-- A term: an IRI, a blank node or a literal. -/
inductive Term where
  | iri (node : Iri)
  | blank (node : BlankNode)
  | literal (value : Literal)
  deriving DecidableEq, Repr, Inhabited, Hashable

namespace Term

/-- The term of a truth value. -/
def ofBool (b : Bool) : Term := .literal (.ofBool b)

/-- The text that identifies the term among terms of its kind: an IRI, a label or a lexical form. -/
def lexicalForm : Term → String
  | iri i => i.text
  | blank b => b.label
  | literal l => l.value

end Term

/-- What can be the subject of a triple. -/
inductive Subject where
  | iri (node : Iri)
  | blank (node : BlankNode)
  deriving DecidableEq, Repr, Inhabited, Hashable

/-- A subject as a term. -/
def Subject.toTerm : Subject → Term
  | iri i => .iri i
  | blank b => .blank b

/-- The subject that a term can be; a literal is none. -/
def Term.toSubject? : Term → Option Subject
  | iri i => some (.iri i)
  | blank b => some (.blank b)
  | literal _ => none

/-- The IRI that a term is. -/
def Term.toIri? : Term → Option Iri
  | iri i => some i
  | _ => none

@[simp] theorem Subject.toSubject?_toTerm (s : Subject) : s.toTerm.toSubject? = some s := by
  cases s <;> rfl

theorem Term.toSubject?_eq_some {t : Term} {s : Subject} :
    t.toSubject? = some s ↔ t = s.toTerm := by
  cases t <;> cases s <;> simp [Term.toSubject?, Subject.toTerm]

/-- A statement of a graph. -/
structure Triple where
  subject : Subject
  predicate : Iri
  object : Term
  deriving DecidableEq, Repr, Inhabited, Hashable

/-! ## Patterns -/

/-- A subject or object position of a pattern. -/
inductive TermPattern where
  | iri (node : Iri)
  | blank (node : BlankNode)
  | literal (value : Literal)
  | var (name : Variable)
  deriving DecidableEq, Repr, Inhabited

/-- A predicate position of a pattern, or anything else that is an IRI or a variable. -/
inductive IriPattern where
  | iri (node : Iri)
  | var (name : Variable)
  deriving DecidableEq, Repr, Inhabited

/-- A triple in which variables may stand. -/
structure TriplePattern where
  subject : TermPattern
  predicate : IriPattern
  object : TermPattern
  deriving DecidableEq, Repr, Inhabited

/-- A term as a pattern that only it matches, blank nodes apart. -/
def Term.toPattern : Term → TermPattern
  | iri i => .iri i
  | blank b => .blank b
  | literal l => .literal l

/-- An IRI or a variable as a subject or object position. -/
def IriPattern.toTermPattern : IriPattern → TermPattern
  | iri i => .iri i
  | var v => .var v

/-- The variable that a position is. -/
def TermPattern.var? : TermPattern → Option Variable
  | var v => some v
  | _ => none

/-- The variable that a predicate position is. -/
def IriPattern.var? : IriPattern → Option Variable
  | var v => some v
  | _ => none

/-- The variables of a pattern from subject to object, repetitions included. -/
def TriplePattern.variables (p : TriplePattern) : List Variable :=
  p.subject.var?.toList ++ p.predicate.var?.toList ++ p.object.var?.toList

/-- Whether a position is an IRI or a literal, so that every binding gives it the same value. -/
def TermPattern.isGround : TermPattern → Bool
  | iri _ | literal _ => true
  | _ => false

/-- Whether a pattern holds no variable and no blank node. -/
def TriplePattern.isGround (p : TriplePattern) : Bool :=
  p.subject.isGround && p.predicate.var?.isNone && p.object.isGround

end SparqlStream
