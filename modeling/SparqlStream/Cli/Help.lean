/-!
# Texts about the program

The version of the program and its options.  The short text has a line for each option; the long
text also says what an option is good for, in paragraphs of its own.
-/

namespace SparqlStream

namespace Cli

/-- How much is said about the options. -/
inductive HelpLength where
  | short
  | long
  deriving DecidableEq, Repr

/-- What is said about an option. -/
structure OptionEntry where
  usage : String
  summary : String
  /-- Paragraphs that only the long text has. -/
  details : List String
  /-- The value of an option that is not given. -/
  default : Option String

namespace OptionEntry

/-- Where the text about an option begins on its line. -/
def margin : String := String.ofList (List.replicate 10 ' ')

/-- The text about an option. -/
def render (length : HelpLength) (e : OptionEntry) : String :=
  let default := (e.default.map fun v => "[default: " ++ v ++ "]").toList
  let text :=
    match length with
    | .short => " ".intercalate (e.summary :: default)
    | .long => ("\n" ++ margin ++ "\n" ++ margin).intercalate (e.summary :: e.details ++ default)
  e.usage ++ "\n" ++ margin ++ text

end OptionEntry

/-- The options of the program. -/
def optionEntries (length : HelpLength) : List OptionEntry :=
  let helpSummary :=
    match length with
    | .short => "Print help (see more with '--help')"
    | .long => "Print help (see a summary with '-h')"
  [ ⟨"  -f, --file <FILES>", "RDF file to load the data from",
      ["Can be given multiple times. The format is guessed from the file extension."], none⟩,
    ⟨"  -q, --query <QUERY>", "The SPARQL query to evaluate", [], none⟩,
    ⟨"      --query-file <QUERY_FILE>", "File that contains the SPARQL query to evaluate", [],
      none⟩,
    ⟨"      --format <FORMAT>", "The format of the results",
      ["It can be an extension like \"json\" or \"nt\" or a MIME type like "
          ++ "\"application/n-triples\".",
        "By default, SELECT and ASK results are written as JSON and CONSTRUCT and DESCRIBE "
          ++ "results as N-Triples."], none⟩,
    ⟨"  -p, --prefix <PREFIXES>",
      "A prefix that can be used in the query without declaring it, written as `name=iri`", [],
      none⟩,
    ⟨"      --base <BASE>", "Base IRI of the query", [], none⟩,
    ⟨"      --window <WINDOW>", "How many bindings an ORDER BY key may buffer",
      ["0 buffers all bindings, which results in a total order."], some "0"⟩,
    ⟨"  -h, --help", helpSummary, [], none⟩,
    ⟨"  -V, --version", "Print version", [], none⟩ ]

/-- What the program is for and how it is used. -/
def helpText (length : HelpLength) : String :=
  let between := match length with
    | .short => "\n"
    | .long => "\n\n"
  "Command line client that evaluates SPARQL queries over Linked Data Fragments\n\n\n"
    ++ "Usage: ldf-client [OPTIONS]\n\nOptions:\n"
    ++ between.intercalate ((optionEntries length).map (·.render length)) ++ "\n"

/-- The version of the program. -/
def versionText : String := "ldf-client 0.1.0\n"

end Cli

end SparqlStream
