import SparqlStream.Sparql.Token

/-!
# Nested parts of queries

Expressions, groups, paths and nodes hold parts of the same kinds in parentheses, brackets and
braces.  Each of these parts is read by a grammar for the parts that are nested more deeply, so
that a grammar is built level by level, and a text never needs more levels than it has characters.
-/

namespace SparqlStream

namespace Sparql

/-- A triple, or two nodes with a path between them. -/
inductive Statement where
  | triple (t : TriplePattern)
  | path (subject : TermPattern) (path : PropertyPath) (object : TermPattern)

/-- What stands between two nodes. -/
inductive Verb where
  | var (v : Variable)
  | path (p : PropertyPath)

/-- A node with the statements that describe it. -/
structure Described where
  node : TermPattern
  statements : List Statement

/-- The readers for parts that are nested more deeply than those at hand. -/
structure Grammar where
  expression : Reader Expression
  group : Reader GraphPattern
  path : Reader PropertyPath
  /-- A node, given how the verbs inside it are read. -/
  node : Reader Verb → Reader Described

/-- The grammar without any nested part. -/
def Grammar.shallow : Grammar := ⟨failure, failure, failure, fun _ => failure⟩

end Sparql

end SparqlStream
