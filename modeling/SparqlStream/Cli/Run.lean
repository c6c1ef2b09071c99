import SparqlStream.Cli.Arguments
import SparqlStream.Matcher.Search
import SparqlStream.Query.Run
import SparqlStream.Rdf.Fresh
import SparqlStream.Rdf.Graph
import SparqlStream.Results.Format
import SparqlStream.Results.Write
import SparqlStream.Sparql.Query

/-!
# The command line

Loads files into one graph, runs a query against it and writes the results.  A file that cannot be
read as a document is skipped; blank nodes of different files are never the same.
-/

namespace SparqlStream

namespace Cli

/-- Why a job fails. -/
inductive Failure where
  | noQuery (path : String)
  | noExtension (path : String)
  | unknownExtension (extension : String)
  | noFile (path : String)
  | query (e : QueryError)
  | unknownGraphFormat (name : String)
  | unknownResultsFormat (name : String)
  | results (e : ResultsError)
  deriving DecidableEq, Repr

/-- The wording of a failure. -/
def Failure.message : Failure → String
  | noQuery path => "Failed to read the query from " ++ path
  | noExtension path => "The path " ++ path ++ " has no extension to guess a file format from"
  | unknownExtension e => "Not able to guess the file format from file name extension '" ++ e ++ "'"
  | noFile path => "Failed to open " ++ path
  | query e => e.message
  | unknownGraphFormat name => "The graph format '" ++ name ++ "' is unknown"
  | unknownResultsFormat name => "The results format '" ++ name ++ "' is unknown"
  | results e => e.message

/-- What has been written in spite of a failure. -/
def Failure.written : Failure → String
  | results e => e.written
  | _ => ""

/-! ## Files -/

/-- The texts of files by their paths. -/
abbrev Files := String → Option String

/-- The extension of a path: what stands behind the last point of the last name, unless the name
begins with that point. -/
def extension? (path : String) : Option String :=
  let parts := (path.toList.splitOn '/').filter fun p => p ≠ [] && p ≠ ['.']
  match parts.getLast? with
  | none | some ['.', '.'] => none
  | some name =>
    let extension := (name.reverse.takeWhile (· ≠ '.')).reverse
    if extension.length + 1 < name.length then some (String.ofList extension) else none

/-- The triples of a file with its own blank nodes, or nothing if the file is no document. -/
def load (files : Files) (supply : Nat → BlankNode) (path : String) :
    Except Failure (Option (List Triple)) :=
  match extension? path with
  | none => .error (.noExtension path)
  | some e =>
    match RdfFormat.ofExtension? e, files path with
    | none, _ => .error (.unknownExtension e)
    | some _, none => .error (.noFile path)
    | some format, some text => .ok ((format.read? supply text).map (relabelled supply))

/-- What has been loaded: the triples, and the files that have been skipped. -/
structure Loaded where
  triples : List Triple
  skipped : List String

/-- Loads files, of which each has a number.  What has been loaded is also told of a failure. -/
def loadAll (files : Files) (supply : Nat → Nat → BlankNode) (loaded : Loaded) (number : Nat) :
    List String → Loaded × Option Failure
  | [] => (loaded, none)
  | path :: rest =>
    match load files (supply number) path with
    | .error e => (loaded, some e)
    | .ok (some ts) =>
      loadAll files supply { loaded with triples := loaded.triples ++ ts } (number + 1) rest
    | .ok none =>
      loadAll files supply { loaded with skipped := loaded.skipped ++ [path] } (number + 1) rest

/-! ## Jobs -/

/-- What a run comes to: its output, the files that it has skipped, and its failure if it fails. -/
structure Report where
  output : String
  skipped : List String
  failure : Option Failure
  deriving DecidableEq, Repr

/-- The text of the query. -/
def queryText (files : Files) : QuerySource → Except Failure String
  | .text q => .ok q
  | .file path => (files path).elim (.error (.noQuery path)) .ok

/-- The query of a job. -/
def parsedQuery (job : Job) (text : String) : Except Failure Query :=
  let options := job.declared.foldl (fun o (name, iri) => o.declare name iri) ⟨[], job.base⟩
  (Query.parse .fresh options text).mapError .query

/-- What reading results to their end has come to, if it has come to an end. -/
def outcome (o : Option (Outcome String)) : Except Failure String :=
  match o with
  | some (.ok text) => .ok text
  | some (.error e) => .error (.results e)
  | none => .ok ""

/-- The results of a query as a text. -/
def write {μ : Type} [Operator μ Binding Binding ResultsError] (format : Option String)
    (limit : Nat) (r : RunningResults μ) : Except Failure String :=
  match r with
  | .triples _ =>
    let name := format.getD "nt"
    match RdfFormat.ofName? name with
    | some f => outcome (r.writeGraph f.writer none limit).1
    | none => .error (.unknownGraphFormat name)
  | .solutions .. | .boolean _ =>
    let name := format.getD "json"
    match ResultsFormat.ofName? name with
    | some f => outcome (r.write f.writer none limit).1
    | none => .error (.unknownResultsFormat name)

/-- Runs a query against triples.  The limit is a number of steps. -/
def answer (job : Job) (ts : List Triple) (fresh : Nat → BlankNode) (limit : Nat) (q : Query) :
    Except Failure String :=
  let index := ((Graph.ofList ts).skolemize Skolem.defaultBase).index
  let options : RunOptions := ⟨Sorter.windowOf job.window, Expression.evaluate, fresh⟩
  write job.format limit (q.run index.matchers options).1

/-- Runs a job. -/
def Job.run (files : Files) (limit : Nat) (job : Job) : Report :=
  match queryText files job.query with
  | .error e => ⟨"", [], some e⟩
  | .ok text =>
    let count := job.files.length + 1
    let (loaded, failure) := loadAll files (BlankNode.supply count) ⟨[], []⟩ 1 job.files
    let result : Except Failure String :=
      match failure with
      | some e => .error e
      | none => parsedQuery job text >>= answer job loaded.triples (BlankNode.supply count 0) limit
    match result with
    | .ok output => ⟨output, loaded.skipped, none⟩
    | .error e => ⟨e.written, loaded.skipped, some e⟩

end Cli

end SparqlStream
