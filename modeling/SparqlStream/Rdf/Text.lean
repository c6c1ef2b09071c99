import SparqlStream.Rdf.Term

/-!
# The text of terms

The one-line text of terms and triples: an IRI in angle brackets, a label after `_:`, a literal
in quotes with its tag or datatype.  It is what messages show, what rows are told apart by, and
what a line of an N-Triples document holds.

Inside quotes seven characters have a short escape, the other control characters are written by
their code in four hexadecimal digits, and everything else stands for itself.
-/

namespace SparqlStream

namespace Quoted

/-- A hexadecimal digit, in upper case. -/
def hexDigit (n : Nat) : Char :=
  Char.ofNat (if n < 10 then '0'.toNat + n else 'A'.toNat + (n - 10))

/-- The short escape of a character, without its backslash. -/
def shortEscape? (c : Char) : Option Char :=
  if c = '\x08' then some 'b'
  else if c = '\t' then some 't'
  else if c = '\n' then some 'n'
  else if c = '\x0c' then some 'f'
  else if c = '\r' then some 'r'
  else if c = '"' then some '"'
  else if c = '\\' then some '\\'
  else none

/-- Whether a character is written by its code: the control characters without a short escape. -/
def needsCode (c : Char) : Bool :=
  c.toNat < 0x20 || c.toNat == 0x7f

/-- A character as it stands between quotes. -/
def encodeChar (c : Char) : List Char :=
  match shortEscape? c with
  | some e => ['\\', e]
  | none =>
    if needsCode c then
      ['\\', 'u', '0', '0', hexDigit (c.toNat / 16), hexDigit (c.toNat % 16)]
    else [c]

/-- A text as it stands between quotes. -/
def encode (s : List Char) : List Char :=
  s.flatMap encodeChar

end Quoted

/-- A text in quotes. -/
def quoted (s : String) : String :=
  "\"" ++ String.ofList (Quoted.encode s.toList) ++ "\""

namespace Iri

def render (i : Iri) : String := "<" ++ i.text ++ ">"

end Iri

namespace BlankNode

def render (b : BlankNode) : String := "_:" ++ b.label

end BlankNode

namespace Variable

def render (v : Variable) : String := "?" ++ v.name

end Variable

namespace Literal

def render : Literal → String
  | simple v => quoted v
  | tagged v l => quoted v ++ "@" ++ l
  | typed v d => quoted v ++ "^^" ++ d.render

end Literal

namespace Term

def render : Term → String
  | iri i => i.render
  | blank b => b.render
  | literal l => l.render

end Term

namespace Subject

def render (s : Subject) : String := s.toTerm.render

end Subject

namespace Triple

/-- The three texts with one space between them. -/
def render (t : Triple) : String :=
  t.subject.render ++ " " ++ t.predicate.render ++ " " ++ t.object.render

end Triple

namespace IriPattern

def render : IriPattern → String
  | iri i => i.render
  | var v => v.render

end IriPattern

end SparqlStream
