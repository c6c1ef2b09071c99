import SparqlStream.Rdf.Text
import SparqlStream.Rdf.Skolem
import SparqlStream.Binding
import SparqlStream.Numeric.Basic
import SparqlStream.Unicode.Case
import SparqlStream.Unicode.Value
import SparqlStream.Regex.Reader
import SparqlStream.Regex.Property
import SparqlStream.Expression.Evaluate
import SparqlStream.Stream.Network
import SparqlStream.Matcher.Search
import SparqlStream.Matcher.Script
import SparqlStream.Query.Groups
import SparqlStream.Query.Run
import SparqlStream.Results.Write
import SparqlStream.Results.Table.Json
import SparqlStream.Results.Table.Xml
import SparqlStream.Results.Table.Separated
import SparqlStream.Iri.Reference
import SparqlStream.Syntax.Parser
import SparqlStream.Syntax.Terminal
import SparqlStream.Sparql.Expression
import SparqlStream.Sparql.Query
import SparqlStream.Rdf.Lines
import SparqlStream.Rdf.Turtle
import SparqlStream.Syntax.Json
import SparqlStream.Syntax.Xml
import SparqlStream.Results.Document.Tab
import SparqlStream.Results.Document.Json
import SparqlStream.Results.Document.Xml
import SparqlStream.Rdf.Markup.Reader
import SparqlStream.Rdf.Markup.Writer
import SparqlStream.Results.Format
import SparqlStream.Main
import SparqlStream.Proofs.Hub
import SparqlStream.Proofs.Reading
import SparqlStream.Proofs.Replay
import SparqlStream.Proofs.Layout
import SparqlStream.Proofs.Semantics
import SparqlStream.Proofs.Waking
import SparqlStream.Proofs.Asking
import SparqlStream.Proofs.Conduct
import SparqlStream.Proofs.Failure
import SparqlStream.Proofs.Spent
import SparqlStream.Proofs.Reaching
import SparqlStream.Proofs.Networks
import SparqlStream.Proofs.RowKeys
import SparqlStream.Proofs.Provenance
import SparqlStream.Proofs.Reordering
import SparqlStream.Proofs.Repetition
import SparqlStream.Proofs.FloatOrder
import SparqlStream.Proofs.KeyOrder
import SparqlStream.Proofs.Relabelling
import SparqlStream.Proofs.Description
import SparqlStream.Proofs.SortedStreams
import SparqlStream.Proofs.HiddenVariables
import SparqlStream.Proofs.Displacement
import SparqlStream.Proofs.SlidingWindow
import SparqlStream.Proofs.UnionQueue
import SparqlStream.Proofs.TakingTurns
import SparqlStream.Proofs.RoundRobin
import SparqlStream.Proofs.Columns
import SparqlStream.Proofs.Instantiation
import SparqlStream.Proofs.NormalForm
import SparqlStream.Proofs.ExactExpressions
import SparqlStream.Proofs.ValueSpaces
import SparqlStream.Proofs.Persistence
import SparqlStream.Proofs.Membership
import SparqlStream.Proofs.Intake
import SparqlStream.Proofs.Slicing
import SparqlStream.Proofs.BindingPools
import SparqlStream.Proofs.Consultation
import SparqlStream.Proofs.CanonicalTexts
import SparqlStream.Proofs.LanguageRanges
import SparqlStream.Proofs.SizeHints
