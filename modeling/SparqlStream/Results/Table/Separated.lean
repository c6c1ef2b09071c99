import SparqlStream.Rdf.Shorthand
import SparqlStream.Results.Table.Basic

/-!
# Tables with separators

A table as lines of fields.  With commas the fields hold the bare texts of the terms, those of
literals in quotes where they would otherwise break the line apart, so the kind of a term is lost.
With tabs the fields hold terms in full, numbers and booleans in short where that is possible.
-/

namespace SparqlStream

namespace Comma

/-- Whether a field has to stand in quotes. -/
def needsQuotes (s : String) : Bool :=
  s.toList.any fun c => c = '"' || c = ',' || c = '\n' || c = '\r'

/-- The field of a text.  A quote inside quotes is written twice. -/
def field (s : String) : String :=
  if needsQuotes s then
    "\"" ++ String.ofList (s.toList.flatMap fun c => if c = '"' then ['"', '"'] else [c]) ++ "\""
  else s

/-- The field of a term. -/
def term : Term → String
  | .iri i => i.text
  | .blank b => b.render
  | .literal l => field l.value

/-- A line. -/
def line (fields : List String) : String := ",".intercalate fields ++ "\r\n"

/-- Tables with commas. -/
def format : TableFormat where
  opening columns := line (columns.map (·.name))
  row columns _ s := line ((s.inColumns columns).map fun t => t.elim "" term)
  closing := ""
  boolean := boolText

end Comma

namespace Tab

/-- A character between quotes. -/
def encodeChar (c : Char) : List Char :=
  match c with
  | '\t' => ['\\', 't']
  | '\n' => ['\\', 'n']
  | '\r' => ['\\', 'r']
  | '"' => ['\\', '"']
  | '\\' => ['\\', '\\']
  | c => [c]

/-- A text in quotes. -/
def quoted (s : String) : String := "\"" ++ String.ofList (s.toList.flatMap encodeChar) ++ "\""

/-- The field of a term. -/
def term : Term → String
  | .iri i => i.render
  | .blank b => b.render
  | .literal l =>
    if l.isShort then l.value
    else
      match l with
      | .simple v => quoted v
      | .tagged v language => quoted v ++ "@" ++ language
      | .typed v datatype => quoted v ++ "^^" ++ datatype.render

/-- A line. -/
def line (fields : List String) : String := "\t".intercalate fields ++ "\n"

/-- Tables with tabs. -/
def format : TableFormat where
  opening columns := line (columns.map Variable.render)
  row columns _ s := line ((s.inColumns columns).map fun t => t.elim "" term)
  closing := ""
  boolean := boolText

end Tab

end SparqlStream
