import SparqlStream.Results.Table.Basic
import SparqlStream.Syntax.Xml

/-!
# Tables as XML

A table is an element with a head, which names the columns, and the results, which hold an element
for each solution.  Nothing is written for an unbound variable, and there is no white space
between elements.

The five characters that mark up text are written as entities.  White space at either end of a
literal is written by its code, because readers remove it.
-/

namespace SparqlStream

namespace Xml

open XmlText (isBlank encodeChar escape)

/-- A character by its code. -/
def codeOf (c : Char) : List Char := "&#".toList ++ (toString c.toNat).toList ++ [';']

/-- A text with the white space at its ends. -/
def paddedText (s : String) : String :=
  let cs := s.toList
  let left := cs.takeWhile isBlank
  let rest := cs.dropWhile isBlank
  let right := (rest.reverse.takeWhile isBlank).reverse
  let middle := (rest.reverse.dropWhile isBlank).reverse
  String.ofList (left.flatMap codeOf ++ middle.flatMap encodeChar ++ right.flatMap codeOf)

/-- An element. -/
def element (name : String) (attributes : List (String × String)) (content : String) : String :=
  "<" ++ name ++ String.join (attributes.map fun (k, v) => " " ++ k ++ "=\"" ++ escape v ++ "\"")
    ++ ">" ++ content ++ "</" ++ name ++ ">"

/-- The element of a term. -/
def term : Term → String
  | .iri i => element "uri" [] (escape i.text)
  | .blank b => element "bnode" [] (escape b.label)
  | .literal (.simple v) => element "literal" [] (paddedText v)
  | .literal (.tagged v language) => element "literal" [("xml:lang", language)] (paddedText v)
  | .literal (.typed v datatype) => element "literal" [("datatype", datatype.text)] (paddedText v)

/-- The element of a solution. -/
def solution (s : Solution) : String :=
  element "result" []
    (String.join (s.bound.map fun (v, t) => element "binding" [("name", v.name)] (term t)))

/-- The beginning of every document. -/
def opening : String :=
  "<?xml version=\"1.0\"?><sparql xmlns=\"http://www.w3.org/2005/sparql-results#\">"

/-- The end of every document. -/
def closing : String := "</sparql>"

/-- The element that names a column. -/
def column (v : Variable) : String := "<variable name=\"" ++ escape v.name ++ "\"/>"

/-- Tables and booleans as XML. -/
def format : TableFormat where
  opening columns := opening ++ element "head" [] (String.join (columns.map column)) ++ "<results>"
  row _ _ s := solution s
  closing := "</results>" ++ closing
  boolean b := opening ++ element "head" [] "" ++ element "boolean" [] (boolText b) ++ closing

end Xml

end SparqlStream
