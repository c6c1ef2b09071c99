import SparqlStream.Results.Document.Basic
import SparqlStream.Unicode.Property

/-!
# Tables with tabs as results

Reads lines of terms between tabs, below a line of variables.  A line that has a wrong number of
terms or a wrong term is an error; the lines behind it are read.  A boolean stands alone.
-/

namespace SparqlStream

namespace Tab

open Unicode (trimmed)

/-! ## Terms -/

/-- An IRI without its escapes.  A backslash that begins no code stands for itself. -/
def withoutCodes? : List Char → Option (List Char)
  | [] => some []
  | '\\' :: 'u' :: rest =>
    match rest with
    | a :: b :: c :: d :: rest => do
      return (← Terminal.charOfHex? [a, b, c, d]) :: (← withoutCodes? rest)
    | _ => none
  | '\\' :: 'U' :: rest =>
    match rest with
    | a :: b :: c :: d :: e :: f :: g :: h :: rest => do
      return (← Terminal.charOfHex? [a, b, c, d, e, f, g, h]) :: (← withoutCodes? rest)
    | _ => none
  | '\\' :: c :: rest => (withoutCodes? rest).map fun cs => '\\' :: c :: cs
  | c :: rest => (withoutCodes? rest).map (c :: ·)

/-- The IRI that a text in angle brackets is. -/
def iri? (cs : List Char) : Option Iri :=
  match trimmed cs with
  | '<' :: rest =>
    if rest.dropWhile (· ≠ '>') = ['>'] then do
      Iri.ofText? (String.ofList (← withoutCodes? (rest.takeWhile (· ≠ '>'))))
    else none
  | _ => none

/-- Whether two points stand side by side in a text. -/
def hasTwoPoints : List Char → Bool
  | '.' :: '.' :: _ => true
  | _ :: rest => hasTwoPoints rest
  | [] => false

/-- The blank node with a label.  Points stand one by one in a label. -/
def blankNode? (label : List Char) : Option BlankNode :=
  if label.all (fun c => Terminal.isNameChar c || c = '.') && !hasTwoPoints label then
    BlankNode.ofLabel? (String.ofList label)
  else none

/-- The text in front of a closing quote without its escapes, and what follows the quote. -/
def quoted? : List Char → Option (List Char × List Char)
  | [] => none
  | '"' :: rest => some ([], rest)
  | '\\' :: 'u' :: a :: b :: c :: d :: rest => do
    let (text, rest) ← quoted? rest
    return ((← Terminal.charOfHex? [a, b, c, d]) :: text, rest)
  | '\\' :: 'U' :: a :: b :: c :: d :: e :: f :: g :: h :: rest => do
    let (text, rest) ← quoted? rest
    return ((← Terminal.charOfHex? [a, b, c, d, e, f, g, h]) :: text, rest)
  | '\\' :: c :: rest => do
    let (text, rest) ← quoted? rest
    return ((← Terminal.charOfLetter? c) :: text, rest)
  | c :: rest =>
    if c = '\\' then none else (quoted? rest).map fun (text, rest) => (c :: text, rest)

/-- The literal with a value, given what follows its closing quote. -/
def suffixed? (value : String) : List Char → Option Literal
  | [] => some (.simple value)
  | '@' :: tag =>
    if tag.all fun c => c.isAlpha || c = '-' then
      Literal.ofParts? value (some (String.ofList tag)) none
    else none
  | '^' :: '^' :: rest => (iri? rest).map (.ofDatatype value)
  | _ => none

/-- The number that a text is.  An exponent may stand alone, and a point needs digits behind it
unless there is an exponent. -/
def number? (cs : List Char) : Option Literal :=
  let unsigned : List Char → List Char
    | '+' :: rest | '-' :: rest => rest
    | cs => cs
  let found (kind : Terminal.NumberKind) (ok : Bool) : Option Literal :=
    if ok then some (.typed (String.ofList cs) kind.datatype) else none
  let isDigits (cs : List Char) : Bool := !cs.isEmpty && cs.all Char.isDigit
  let before := (unsigned cs).takeWhile Char.isDigit
  match (unsigned cs).dropWhile Char.isDigit with
  | 'e' :: rest | 'E' :: rest => found .double (isDigits (unsigned rest))
  | '.' :: rest =>
    match rest.dropWhile Char.isDigit with
    | 'e' :: rest | 'E' :: rest => found .double (isDigits (unsigned rest))
    | behind => found .decimal (behind.isEmpty && !rest.isEmpty)
  | behind => found .integer (behind.isEmpty && !before.isEmpty)

/-- The literal that a text is. -/
def literal? (cs : List Char) : Option Literal :=
  match cs with
  | '"' :: rest => do
    let (value, rest) ← quoted? rest
    suffixed? (String.ofList value) rest
  | cs =>
    if cs = "true".toList then some (.ofBool true)
    else if cs = "false".toList then some (.ofBool false)
    else number? cs

/-- The term that a text without white space at its ends is. -/
def term? (cs : List Char) : Option Term :=
  match cs with
  | '<' :: _ => .iri <$> iri? cs
  | '_' :: ':' :: label => .blank <$> blankNode? label
  | cs => .literal <$> literal? cs

/-! ## Lines -/

/-- The cell that a field is, which may be empty. -/
def cell? (field : List Char) : Option (Option Term) :=
  let cs := trimmed field
  if cs.isEmpty then some none else (term? cs).map some

/-- The row that a line is.  A table without columns has lines without terms. -/
def row? (columns : List Variable) (line : List Char) : Option NamedRow := do
  let cells ← (line.splitOn '\t').mapM cell?
  if cells.length = columns.length then
    some ((columns.zip cells).filterMap fun (v, t) => t.map (v.name, ·))
  else if columns.isEmpty && cells = [none] then some []
  else none

/-- The lines of a text.  The end of the last line may be missing. -/
def lines (cs : List Char) : List (List Char) :=
  let parts := cs.splitOn '\n'
  if parts.getLast? = some [] then parts.dropLast else parts

/-- The variable that a field of the first line is. -/
def variableName? (field : List Char) : Option String :=
  match trimmed field with
  | '?' :: name | '$' :: name => some (String.ofList name)
  | _ => none

/-- The columns that the first line names. -/
def columns? (line : List Char) : Option (List Variable) :=
  if line.isEmpty then some []
  else
    (line.splitOn '\t').foldlM
      (fun vs field => do ListedResults.addColumn? vs (← variableName? field)) []

/-- The results that a text is. -/
def read? (text : String) : Option ListedResults :=
  let (first, rest) :=
    match lines text.toList with
    | first :: rest => (first, rest)
    | [] => ([], [])
  let isEnd (c : Char) : Bool := c = ' ' || c = '\r' || c = '\n'
  let first := ((first.dropWhile isEnd).reverse.dropWhile isEnd).reverse
  let lower := first.map Char.toLower
  if lower = "true".toList then some (.ofBoolean true)
  else if lower = "false".toList then some (.ofBoolean false)
  else do
    let columns ← columns? first
    return .ofRows columns (rest.map (row? columns))

end Tab

end SparqlStream
