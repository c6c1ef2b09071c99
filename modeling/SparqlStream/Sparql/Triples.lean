import SparqlStream.Sparql.Grammar

/-!
# Triples of queries

Reads triples with their abbreviations: several objects and several predicates of one subject,
nodes that are described in brackets, lists in parentheses, and paths.  A path that is a sequence
is taken apart into statements about a node in between, and an inverse path is turned round.
-/

namespace SparqlStream

namespace Sparql

namespace Grammar

/-! ## Paths -/

/-- The kinds of steps that a path avoids: from the subject, or to it. -/
inductive Avoided where
  | direct (i : Iri)
  | inverse (i : Iri)

/-- Reads a predicate of a path. -/
def predicate : Reader Iri := iri <|> (do mark "a"; return Rdf.type)

/-- Reads a predicate to be avoided. -/
def avoided : Reader Avoided :=
  (do mark "^"; return .inverse (← predicate)) <|> (.direct <$> predicate)

/-- The path of all steps except some. -/
def avoiding (as : List Avoided) : PropertyPath :=
  let direct := as.filterMap fun
    | .direct i => some i
    | .inverse _ => none
  let inverse := as.filterMap fun
    | .inverse i => some i
    | .direct _ => none
  if inverse.isEmpty then .noneOf direct
  else if direct.isEmpty then .inverse (.noneOf inverse)
  else .alternative (.noneOf direct) (.inverse (.noneOf inverse))

/-- Reads a path without operators. -/
def pathPrimary (g : Grammar) : Reader PropertyPath :=
  Parser.firstOf
    [ .iri <$> predicate,
      (do
        mark "!"
        avoiding <$> (word (parenthesised (Parser.separatedBy1 avoided (mark "|")))
          <|> (do return [← avoided]))),
      word (parenthesised g.path) ]

/-- Reads a path with at most one operator behind it. -/
def pathElement (g : Grammar) : Reader PropertyPath := do
  let p ← g.pathPrimary
  Parser.firstOf
    [ (do mark "*"; return .zeroOrMore p),
      (do mark "+"; return .oneOrMore p),
      word (do
        char '?'
        Parser.notFollowedBy (Parser.satisfy fun c => c.isDigit || isNameStart c)
        return .zeroOrOne p),
      pure p ]

/-- Reads a path that may be turned round. -/
def pathStep (g : Grammar) : Reader PropertyPath :=
  (do mark "^"; return .inverse (← g.pathElement)) <|> g.pathElement

/-- Paths put together, grouped to the left. -/
def joinPaths (combine : PropertyPath → PropertyPath → PropertyPath) :
    List PropertyPath → Reader PropertyPath
  | [] => failure
  | p :: rest => pure (rest.foldl combine p)

/-- Reads a sequence of paths. -/
def pathSequence (g : Grammar) : Reader PropertyPath := do
  joinPaths .sequence (← Parser.separatedBy1 g.pathStep (mark "/"))

/-- Reads alternatives of paths. -/
def pathAlternative (g : Grammar) : Reader PropertyPath := do
  joinPaths .alternative (← Parser.separatedBy1 g.pathSequence (mark "|"))

/-- Reads a verb that may be a path. -/
def pathVerb (g : Grammar) : Reader Verb :=
  (.path <$> g.pathAlternative) <|> (.var <$> namedVariable)

/-- Reads a verb of a template. -/
def templateVerb : Reader Verb :=
  (.var <$> namedVariable) <|> (do return .path (.iri (← predicate)))

/-! ## Statements -/

/-- Where nodes without a name come from. -/
abbrev Fresh := Nat → BlankNode

/-- The statements between two nodes with a path between them. -/
def pathStatements (fresh : Fresh) (s o : TermPattern) : PropertyPath → Reader (List Statement)
  | .iri i => pure [.triple ⟨s, .iri i, o⟩]
  | .inverse p => pathStatements fresh o s p
  | .sequence p q => do
    let middle := TermPattern.blank (← newNode fresh)
    let first ← pathStatements fresh s middle p
    let second ← pathStatements fresh middle o q
    return first ++ second
  | p => pure [.path s p o]

/-- The statements between a node and some others. -/
def verbStatements (fresh : Fresh) (s : TermPattern) (v : Verb) : List TermPattern →
    Reader (List Statement)
  | [] => pure []
  | o :: rest => do
    let first ←
      match v with
      | .var v => pure [.triple ⟨s, .var v, o⟩]
      | .path p => pathStatements fresh s o p
    return first ++ (← verbStatements fresh s v rest)

/-- The properties of a node: verbs with their objects, and the statements about the objects. -/
structure Properties where
  verbs : List (Verb × List TermPattern)
  statements : List Statement

/-- The statements that give a node some properties.  What describes the objects comes first. -/
def statementsAbout (fresh : Fresh) (s : TermPattern) (ps : Properties) :
    Reader (List Statement) := do
  let own ← ps.verbs.mapM fun (v, os) => verbStatements fresh s v os
  return ps.statements ++ own.flatten

/-- Reads a verb with its objects. -/
def property (g : Grammar) (verb : Reader Verb) : Reader Properties := do
  let v ← verb
  let os ← Parser.separatedBy1 (g.node verb) (mark ",")
  return ⟨[(v, os.map (·.node))], os.flatMap (·.statements)⟩

/-- Reads at least one verb with its objects. -/
def properties (g : Grammar) (verb : Reader Verb) : Reader Properties := do
  let first ← g.property verb
  let more ← Parser.many do
    mark ";"
    Parser.optionally (g.property verb)
  let all := first :: more.filterMap id
  return ⟨all.flatMap (·.verbs), all.flatMap (·.statements)⟩

/-- Reads a node that is described in brackets. -/
def bracketNode (g : Grammar) (fresh : Fresh) (verb : Reader Verb) : Reader Described := do
  mark "["
  let ps ← g.properties verb
  mark "]"
  let node := TermPattern.blank (← newNode fresh)
  return ⟨node, ← statementsAbout fresh node ps⟩

/-- A list of nodes: its first node, and the statements that make up the list from its end to its
beginning. -/
def listOf (fresh : Fresh) : List Described → Reader Described
  | [] => pure ⟨.iri Rdf.nil, []⟩
  | d :: rest => do
    let tail ← listOf fresh rest
    let node := TermPattern.blank (← newNode fresh)
    return ⟨node, tail.statements ++ [.triple ⟨node, .iri Rdf.first, d.node⟩,
      .triple ⟨node, .iri Rdf.rest, tail.node⟩] ++ d.statements⟩

/-- Reads a list in parentheses. -/
def collection (g : Grammar) (fresh : Fresh) (verb : Reader Verb) : Reader Described := do
  listOf fresh (← word (parenthesised (Parser.many1 (g.node verb))))

/-- Reads a node with a description of its own. -/
def describedNode (g : Grammar) (fresh : Fresh) (verb : Reader Verb) : Reader Described :=
  g.collection fresh verb <|> g.bracketNode fresh verb

/-- Reads a node. -/
def graphNode (g : Grammar) (fresh : Fresh) (verb : Reader Verb) : Reader Described :=
  (do return ⟨← term fresh, []⟩) <|> g.describedNode fresh verb

/-- Reads the statements about a subject. -/
def sameSubject (g : Grammar) (fresh : Fresh) (verb : Reader Verb) : Reader (List Statement) :=
  (do
    let s ← term fresh
    statementsAbout fresh s (← g.properties verb))
  <|> (do
    let s ← g.describedNode fresh verb
    let ps ← (g.properties verb) <|> pure ⟨[], []⟩
    return s.statements ++ (← statementsAbout fresh s.node ps))

/-- Reads the statements about some subjects. -/
def statements (g : Grammar) (fresh : Fresh) (verb : Reader Verb) : Reader (List Statement) := do
  let ss ← Parser.separatedBy1 (g.sameSubject fresh verb) (mark ".")
  let _ ← Parser.optionally (mark ".")
  return ss.flatten

/-- The triples among some statements. -/
def triplesOf (ss : List Statement) : List TriplePattern :=
  ss.filterMap fun
    | .triple t => some t
    | .path .. => none

/-- Reads the triples of a template.  A point may stand alone. -/
def templateTriples (g : Grammar) (fresh : Fresh) : Reader (List TriplePattern) := do
  let ss ← Parser.separatedBy (g.sameSubject fresh templateVerb) (mark ".")
  let _ ← Parser.optionally (mark ".")
  return triplesOf ss.flatten

/-- Reads triples that are a template as well as a condition. -/
def conditionTriples (g : Grammar) (fresh : Fresh) : Reader (List TriplePattern) := do
  return triplesOf (← (g.statements fresh templateVerb) <|> pure [])

end Grammar

end Sparql

end SparqlStream
