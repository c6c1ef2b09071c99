import SparqlStream.Syntax.Terminal

/-!
# The words of documents

Takes the texts of documents apart into IRIs, names, strings, numbers, language tags, keywords and
marks.  A word is as long as it can be, and where it ends may depend on what follows, so some words
are not complete at the end of a text.

The dialects have most words in common.  Documents of lines know one kind of quotes only, and the
dialect with formulas has two more marks that begin like an IRI.
-/

namespace SparqlStream

/-- The kinds of documents that share their words. -/
inductive Dialect where
  | lines
  | grouped
  | formulas
  deriving DecidableEq, Repr

/-- The words of documents. -/
inductive RdfToken where
  | iri (i : Iri)
  /-- A name before a colon and a local name.  Together they may not make an IRI. -/
  | name (space part : String) (isDoubtful : Bool)
  | variable (name : String)
  | node (label : String)
  | string (value : String)
  | number (kind : Terminal.NumberKind) (written : String)
  | tag (language : String)
  | mark (m : String)
  | keyword (k : String)
  deriving DecidableEq, Repr

namespace RdfToken

open Terminal (isNameLetter isNameStart isNameChar)

/-- A word and what is left behind it. -/
abbrev Found := Option (RdfToken × List Char)

/-! ## Quotes -/

/-- The character that is escaped behind a backslash, and the length of its escape. -/
def escape? (letters : Bool) : List Char → Option (Char × Nat)
  | 'u' :: rest => do
    if rest.length < 4 then none else return (← Terminal.charOfHex? (rest.take 4), 5)
  | 'U' :: rest => do
    if rest.length < 8 then none else return (← Terminal.charOfHex? (rest.take 8), 9)
  | c :: _ => if letters then (Terminal.charOfLetter? c).map (·, 1) else none
  | [] => none

/-- The text up to some closing characters without its escapes, and what is left behind them. -/
def closed? (closing : List Char) (letters breaks : Bool) :
    List Char → Option (List Char × List Char)
  | [] => none
  | c :: cs =>
    if closing.isPrefixOf (c :: cs) then some ([], (c :: cs).drop closing.length)
    else if c = '\\' then
      match escape? letters cs with
      | some (e, n) =>
        (closed? closing letters breaks (cs.drop n)).map fun (text, rest) => (e :: text, rest)
      | none => none
    else if !breaks && (c = '\n' || c = '\r') then none
    else (closed? closing letters breaks cs).map fun (text, rest) => (c :: text, rest)
termination_by cs => cs.length
decreasing_by all_goals simp only [List.length_drop, List.length_cons]; omega

/-- An IRI behind its first bracket. -/
def iri? (base : Option Iri) (cs : List Char) : Found := do
  let (text, rest) ← closed? ['>'] false true cs
  return (.iri (← Iri.resolve? base (String.ofList text)), rest)

/-- A string behind its first quote. -/
def string? (closing : List Char) (cs : List Char) : Found := do
  let (text, rest) ← closed? closing true (closing.length = 3) cs
  return (.string (String.ofList text), rest)

/-! ## Names -/

/-- Whether a name may hold a character that an IRI may not. -/
def isNoncharacter (c : Char) : Bool :=
  (0xFFF0 ≤ c.toNat && c.toNat ≤ 0xFFFD) || (0x10000 ≤ c.toNat && 0xFFFE ≤ c.toNat % 0x10000)

/-- A text that is taken apart at the points behind it. -/
def beforePoints (cs : List Char) : List Char × List Char :=
  let points := cs.reverse.takeWhile (· = '.')
  (cs.take (cs.length - points.length), points)

/-- What is known of a local name: its characters, the last one first, whether some are escaped, and
whether it may make no IRI. -/
structure LocalName where
  chars : List Char
  isEscaped : Bool
  isDoubtful : Bool

namespace LocalName

/-- The local name with another character. -/
def add (n : LocalName) (c : Char) : LocalName :=
  { n with chars := c :: n.chars, isDoubtful := n.isDoubtful || isNoncharacter c || c = ':' }

/-- The local name with an escaped character. -/
def addEscaped (n : LocalName) (c : Char) : LocalName :=
  ⟨c :: n.chars, true, n.isDoubtful || "/?#@%".toList.contains c⟩

/-- The longest local name.  Points at its end do not belong to it, but where it is the end of the
text and holds an escape, they do. -/
def read? (n : LocalName) : List Char → Option (LocalName × List Char)
  | [] => if n.isEscaped then some (n, []) else finish n []
  | '%' :: a :: b :: rest =>
    if IriReference.isHexDigit a && IriReference.isHexDigit b then
      read? { n with chars := b :: a :: '%' :: n.chars } rest
    else none
  | '\\' :: c :: rest =>
    if Terminal.escapable.contains c then read? (n.addEscaped c) rest else none
  | c :: rest =>
    if c = '%' || c = '\\' then none
    else
      let fits :=
        if n.chars.isEmpty then isNameStart c || c = ':' || c.isDigit
        else isNameChar c || c = ':' || c = '.'
      if fits then read? (n.add c) rest else finish n (c :: rest)
where
  /-- The local name without the points at its end. -/
  finish (n : LocalName) (rest : List Char) : Option (LocalName × List Char) :=
    let points := n.chars.takeWhile (· = '.')
    some ({ n with chars := n.chars.drop points.length }, points ++ rest)

/-- The local name as a text. -/
def text (n : LocalName) : String := String.ofList n.chars.reverse

end LocalName

/-- The longest local name, which may be empty. -/
def localName? : List Char → Option (LocalName × List Char) := LocalName.read? ⟨[], false, false⟩

/-- A name with a colon, or a keyword. -/
def name? (cs : List Char) : Found :=
  let belongs (c : Char) : Bool := isNameChar c || c = '.'
  let start := cs.takeWhile belongs
  let rest := cs.dropWhile belongs
  if !start.head?.all isNameLetter then none
  else
    match rest with
    | ':' :: rest => do
      if start.getLast? = some '.' then none
      let (n, rest) ← localName? rest
      return (.name (String.ofList start) n.text n.isDoubtful, rest)
    | rest =>
      let (word, points) := beforePoints start
      if word.isEmpty then none else some (.keyword (String.ofList word), points ++ rest)

/-- The label of a node behind its colon.  Two points end it, and it does not end the text. -/
def label? (before : List Char) : List Char → Found
  | [] => none
  | c :: rest =>
    let fits := if before.isEmpty then isNameStart c || c.isDigit else isNameChar c
    if fits then label? (c :: before) rest
    else
      match before with
      | '.' :: earlier => some (.node (String.ofList earlier.reverse), '.' :: c :: rest)
      | [] => some (.node "", c :: rest)
      | before =>
        if c = '.' then label? ('.' :: before) rest
        else some (.node (String.ofList before.reverse), c :: rest)

/-- The language tag behind its sign: letters with single hyphens between.  It does not end the
text. -/
def tag? (before : List Char) : List Char → Found
  | [] => none
  | '-' :: d :: rest =>
    if d.isAlpha && !before.isEmpty then tag? (d :: '-' :: before) rest
    else finish before ('-' :: d :: rest)
  | c :: rest =>
    if c.isAlpha then tag? (c :: before) rest
    else if c = '-' then none
    else finish before (c :: rest)
where
  /-- The tag, which has to be well formed. -/
  finish (before rest : List Char) : Found :=
    let language := before.reverse
    if LanguageTag.isValid language then some (.tag (String.ofList language), rest) else none

/-! ## Numbers -/

/-- A number.  A point that no digit follows does not belong to it, unless an exponent follows. -/
def number? (cs : List Char) : Found :=
  let unsigned : List Char :=
    match cs with
    | '+' :: rest | '-' :: rest => rest
    | cs => cs
  let found (kind : Terminal.NumberKind) (rest : List Char) : Found :=
    some (.number kind (String.ofList (cs.take (cs.length - rest.length))), rest)
  let before := unsigned.takeWhile Char.isDigit
  let integer (rest : List Char) : Found := if before.isEmpty then none else found .integer rest
  let exponent (hasDigits : Bool) (rest : List Char) : Found :=
    let unsigned : List Char :=
      match rest with
      | '+' :: rest | '-' :: rest => rest
      | cs => cs
    if !hasDigits || !unsigned.head?.any Char.isDigit then none
    else found .double (unsigned.dropWhile Char.isDigit)
  match unsigned.dropWhile Char.isDigit with
  | '.' :: rest =>
    let after := rest.takeWhile Char.isDigit
    match rest.dropWhile Char.isDigit with
    | 'e' :: more | 'E' :: more => exponent (!before.isEmpty || !after.isEmpty) more
    | more => if after.isEmpty then integer ('.' :: rest) else found .decimal more
  | 'e' :: more | 'E' :: more => exponent (!before.isEmpty) more
  | rest => integer rest

/-! ## Words -/

/-- A mark of one character. -/
def single (c : Char) (rest : List Char) : Found := some (.mark (c.toString), rest)

/-- The first word of a text. -/
def first? (dialect : Dialect) (base : Option Iri) : List Char → Found
  | '<' :: c :: rest =>
    if c = '<' then some (.mark "<<", rest)
    else if dialect = .formulas && (c = '=' || c = '-') then
      (iri? base (c :: rest)).or (some (.mark (String.ofList ['<', c]), rest))
    else iri? base (c :: rest)
  | '_' :: ':' :: rest => label? [] rest
  | '"' :: rest =>
    match dialect, rest with
    | .lines, rest => string? ['"'] rest
    | _, '"' :: '"' :: rest => string? ['"', '"', '"'] rest
    | _, ['"'] => none
    | _, rest => string? ['"'] rest
  | '\'' :: rest =>
    match dialect, rest with
    | .lines, _ => none
    | _, '\'' :: '\'' :: rest => string? ['\'', '\'', '\''] rest
    | _, ['\''] => none
    | _, rest => string? ['\''] rest
  | '@' :: rest => tag? [] rest
  | '.' :: rest =>
    if rest.head?.any Char.isDigit then number? ('.' :: rest) else single '.' rest
  | '^' :: '^' :: rest => some (.mark "^^", rest)
  | '^' :: c :: rest => single '^' (c :: rest)
  | '\x7b' :: c :: rest => if c = '|' then none else single '\x7b' (c :: rest)
  | '=' :: '>' :: rest => some (.mark "=>", rest)
  | '=' :: c :: rest => single '=' (c :: rest)
  | '?' :: rest => do
    let (n, rest) ← localName? rest
    if n.chars.isEmpty then none else return (.variable n.text, rest)
  | c :: rest =>
    if "()[],;!\x7d".toList.contains c then single c rest
    else if c.isDigit || c = '+' || c = '-' then number? (c :: rest)
    else if "<_>^|=\x7b".toList.contains c then none
    else name? (c :: rest)
  | [] => none

end RdfToken

end SparqlStream
