import SparqlStream.Rdf.Format
import SparqlStream.Results.Document.Json
import SparqlStream.Results.Document.Tab
import SparqlStream.Results.Document.Xml
import SparqlStream.Results.Table.Json
import SparqlStream.Results.Table.Separated
import SparqlStream.Results.Table.Xml

/-!
# Formats of results

The formats in which tables and booleans are read and written, and the names by which they are
known.  A table with commas cannot be read, because it does not tell the kinds of terms apart.
-/

namespace SparqlStream

/-- The formats of results. -/
inductive ResultsFormat where
  | json
  | xml
  | csv
  | tsv
  deriving DecidableEq, Repr

namespace ResultsFormat

/-- The extensions of files. -/
def extensions : List (String × ResultsFormat) :=
  [("csv", csv), ("json", json), ("srj", json), ("srx", xml), ("tsv", tsv), ("txt", csv),
    ("xml", xml)]

/-- The types of media. -/
def subtypes : List (String × ResultsFormat) :=
  [("csv", csv), ("json", json), ("plain", csv), ("sparql-results+json", json),
    ("sparql-results+xml", xml), ("tab-separated-values", tsv), ("tsv", tsv), ("xml", xml)]

/-- The format of files with an extension. -/
def ofExtension? (extension : String) : Option ResultsFormat := lookupFolded? extensions extension

/-- The format with a type of media. -/
def ofMediaType? (text : String) : Option ResultsFormat := do
  lookupFolded? subtypes (← MediaType.subtype? text)

/-- The format with a name, which is an extension or a type of media. -/
def ofName? (name : String) : Option ResultsFormat := (ofExtension? name).or (ofMediaType? name)

/-- How a format is written. -/
def writer : ResultsFormat → TableFormat
  | json => Json.format
  | xml => Xml.format
  | csv => Comma.format
  | tsv => Tab.format

/-- The results that a document holds. -/
def read? : ResultsFormat → String → Option ListedResults
  | json => Json.read?
  | xml => Xml.read?
  | csv => fun _ => none
  | tsv => Tab.read?

end ResultsFormat

end SparqlStream
