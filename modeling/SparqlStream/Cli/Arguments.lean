import SparqlStream.Cli.Help

/-!
# Arguments

What the arguments of the command line ask for.  An option takes its value from the same argument
or from the next one.  Where the arguments are wrong there is no request.
-/

namespace SparqlStream

namespace Cli

/-- Where the text of the query comes from. -/
inductive QuerySource where
  | text (query : String)
  | file (path : String)
  deriving DecidableEq, Repr

/-- What is to be done: files to be loaded, a query, the name of a format, declared names, a base,
and a window for orders. -/
structure Job where
  files : List String
  query : QuerySource
  format : Option String
  declared : List (String × String)
  base : Option String
  window : Nat
  deriving DecidableEq, Repr

/-- What the arguments ask for. -/
inductive Request where
  | job (j : Job)
  | help (length : HelpLength)
  | version
  deriving DecidableEq, Repr

/-! ## Options -/

/-- The options. -/
inductive Flag where
  | file
  | query
  | queryFile
  | format
  | declare
  | base
  | window
  | help
  | version
  deriving DecidableEq, Repr

namespace Flag

/-- The options with a name of one letter. -/
def ofLetter? : Char → Option Flag
  | 'f' => some file
  | 'q' => some query
  | 'p' => some declare
  | 'h' => some help
  | 'V' => some version
  | _ => none

/-- The options by their names. -/
def ofName? (name : String) : Option Flag :=
  [("file", file), ("query", query), ("query-file", queryFile), ("format", format),
    ("prefix", declare), ("base", base), ("window", window), ("help", help),
    ("version", version)].lookup name

/-- The request that an option is by itself.  Its letter asks for less help than its name. -/
def request? (isLetter : Bool) : Flag → Option Request
  | help => some (.help (if isLetter then .short else .long))
  | version => some .version
  | _ => none

end Flag

/-- The options that have been read.  All but files and declared names are given at most once. -/
structure Draft where
  files : List String
  query : Option String
  queryFile : Option String
  format : Option String
  declared : List (String × String)
  base : Option String
  window : Option Nat

namespace Draft

/-- Nothing has been read. -/
def empty : Draft := ⟨[], none, none, none, [], none, none⟩

/-- A value that has to be the first one. -/
def once {α : Type} (before : Option α) (a : α) : Option (Option α) :=
  if before.isSome then none else some (some a)

/-- The largest window. -/
def windowLimit : Nat := Nat.pow 2 64 - 1

/-- The number that a text is, which a plus sign may precede. -/
def window? (value : String) : Option Nat :=
  let digits :=
    match value.toList with
    | '+' :: rest => rest
    | cs => cs
  let n := digits.foldl (fun n c => 10 * n + (c.toNat - '0'.toNat)) 0
  if !digits.isEmpty && digits.all Char.isDigit && n ≤ windowLimit then some n else none

/-- The name and the IRI of a declaration, with an equals sign between them. -/
def declaration? (value : String) : Option (String × String) :=
  let cs := value.toList
  match cs.dropWhile (· ≠ '=') with
  | _ :: iri => some (String.ofList (cs.takeWhile (· ≠ '=')), String.ofList iri)
  | [] => none

/-- A path, which must not be empty. -/
def path? (value : String) : Option String := if value.isEmpty then none else some value

/-- Reads the value of an option. -/
def read (d : Draft) (f : Flag) (value : String) : Option Draft :=
  match f with
  | .file => do return { d with files := d.files ++ [← path? value] }
  | .query => do return { d with query := ← once d.query value }
  | .queryFile => do return { d with queryFile := ← once d.queryFile (← path? value) }
  | .format => do return { d with format := ← once d.format value }
  | .declare => do return { d with declared := d.declared ++ [← declaration? value] }
  | .base => do return { d with base := ← once d.base value }
  | .window => do return { d with window := ← once d.window (← window? value) }
  | .help | .version => none

/-- The job that the options ask for.  There is one source of the query. -/
def job? (d : Draft) : Option Job := do
  let source ←
    match d.query, d.queryFile with
    | some q, none => some (.text q)
    | none, some p => some (.file p)
    | _, _ => none
  return ⟨d.files, source, d.format, d.declared, d.base, d.window.getD 0⟩

end Draft

/-! ## Reading arguments -/

/-- How an argument begins. -/
inductive Shape where
  /-- An option by its name, perhaps with a value behind an equals sign. -/
  | named (name : String) (value : Option String)
  /-- An option by its letter, and what stands behind it. -/
  | letter (c : Char) (rest : List Char)
  /-- The end of the options. -/
  | endOfOptions
  /-- No option. -/
  | other

/-- How an argument begins. -/
def Shape.of (arg : String) : Shape :=
  match arg.toList with
  | ['-', '-'] => endOfOptions
  | '-' :: '-' :: cs =>
    let name := String.ofList (cs.takeWhile (· ≠ '='))
    match cs.dropWhile (· ≠ '=') with
    | _ :: value => named name (some (String.ofList value))
    | [] => named name none
  | '-' :: c :: rest => letter c rest
  | _ => other

/-- Whether an argument can be the value of the option before it. -/
def isValue (arg : String) : Bool :=
  match Shape.of arg with
  | .other => true
  | _ => false

/-- The value behind the letter of an option. -/
def attachedValue? : List Char → Option String
  | [] => none
  | '=' :: value => some (String.ofList value)
  | value => some (String.ofList value)

/-- What arguments ask for, behind options that have been read. -/
def readFrom (d : Draft) : List String → Option Request
  | [] => .job <$> d.job?
  | arg :: rest =>
    let option : Option (Flag × Option String) :=
      match Shape.of arg with
      | .named name value => (Flag.ofName? name).map (·, value)
      | .letter c value => (Flag.ofLetter? c).map (·, attachedValue? value)
      | .endOfOptions | .other => none
    match option, rest with
    | none, [] => if arg = "--" then .job <$> d.job? else none
    | none, _ => none
    | some (f, value), rest =>
      let isLetter := !arg.startsWith "--"
      match f.request? isLetter with
      | some r => if !isLetter && value.isSome then none else some r
      | none =>
        match value, rest with
        | some v, rest => do readFrom (← d.read f v) rest
        | none, v :: rest => if isValue v then do readFrom (← d.read f v) rest else none
        | none, [] => none

/-- What arguments ask for. -/
def Request.read? (arguments : List String) : Option Request := readFrom .empty arguments

end Cli

end SparqlStream
