import SparqlStream.Iri.Reference

/-!
# XML

Reads a text as a list of events: start tags with their attributes, end tags, text between them, and
what documents say about themselves.  An empty element counts as a start tag with an end tag.  What
is wrong with the text stands between the events, at its place, and reading goes on behind it unless
the end of the text has cut something off.

A start tag goes on up to the next closing bracket that stands in no quotes, whatever it holds.  Its
attributes are told apart afterwards, and what is no attribute is a mistake among them.

Where white space between tags does not count, it is removed from the ends of texts, and a text of
white space is no event.  Five characters that mark up text are written as entities.
-/

namespace SparqlStream

namespace XmlText

/-- A name with its value, as it is written, or nothing in the place of a mistake. -/
abbrev Attribute := Option (String × String)

/-- What a document consists of.  Texts and values of attributes stand as they are written. -/
inductive Event where
  | start (name : String) (attributes : List Attribute)
  | finish (name : String)
  | text (s : String)
  /-- Text that is marked as such, in which nothing stands for anything else. -/
  | marked (s : String)
  /-- What the document says about its writing. -/
  | declaration (attributes : List Attribute)
  /-- What the document says about its type. -/
  | documentType (s : String)
  /-- Comments and instructions. -/
  | other
  deriving DecidableEq, Repr

/-- Whether a character is white space. -/
def isBlank (c : Char) : Bool := c = ' ' || c = '\t' || c = '\n' || c = '\r'

/-! ## Tags -/

/-- The attributes in a tag, behind those with some names.  An attribute without a value in quotes
is a mistake, and so is a second one of the same name.  The limit is a number of attributes. -/
def attributesOf (known : List String) : (limit : Nat) → List Char → List Attribute
  | 0, _ => []
  | limit + 1, cs =>
    match cs.dropWhile isBlank with
    | [] => []
    | first :: cs =>
      let inName (c : Char) : Bool := c ≠ '=' && !isBlank c
      let name := String.ofList (first :: cs.takeWhile inName)
      match (cs.dropWhile inName).dropWhile isBlank with
      | '=' :: cs =>
        let valued (v : List Char) : Attribute :=
          if known.contains name then none else some (name, String.ofList v)
        match cs.dropWhile isBlank with
        | [] => [none]
        | quote :: cs =>
          if quote = '"' || quote = '\'' then
            match cs.dropWhile (· ≠ quote) with
            | [] => [none]
            | _ :: rest =>
              valued (cs.takeWhile (· ≠ quote)) :: attributesOf (name :: known) limit rest
          else none :: attributesOf (name :: known) limit (cs.dropWhile (!isBlank ·))
      | [] => [none]
      | cs => none :: attributesOf known limit cs

/-- The text up to the end of a tag, which does not stand in quotes, and what follows it. -/
def tagEnd? (quote : Option Char) : List Char → Option (List Char × List Char)
  | [] => none
  | c :: cs =>
    match quote with
    | some q =>
      (tagEnd? (if c = q then none else some q) cs).map fun (text, rest) => (c :: text, rest)
    | none =>
      if c = '>' then some ([], cs)
      else
        (tagEnd? (if c = '"' || c = '\'' then some c else none) cs).map
          fun (text, rest) => (c :: text, rest)

/-- The name at the beginning of a tag, and its attributes. -/
def tagParts (cs : List Char) : String × List Attribute :=
  let name := cs.takeWhile (!isBlank ·)
  (String.ofList name, attributesOf [] cs.length (cs.drop name.length))

/-- The events of a start tag. -/
def startTag (cs : List Char) : List (Option Event) :=
  if cs.getLast? = some '/' then
    let (name, attributes) := tagParts cs.dropLast
    [some (.start name attributes), some (.finish name)]
  else
    let (name, attributes) := tagParts cs
    [some (.start name attributes)]

/-! ## Other markup -/

/-- The text up to a mark, and what follows the mark. -/
def upTo? (mark : List Char) : List Char → Option (List Char × List Char)
  | [] => none
  | c :: cs =>
    if mark.isPrefixOf (c :: cs) then some ([], (c :: cs).drop mark.length)
    else (upTo? mark cs).map fun (text, rest) => (c :: text, rest)

/-- The text up to a closing bracket that belongs to no other bracket, and what follows it. -/
def typeEnd? (isOpen : Nat) : List Char → Option (List Char × List Char)
  | [] => none
  | c :: cs =>
    let more (isOpen : Nat) : Option (List Char × List Char) :=
      (typeEnd? isOpen cs).map fun (text, rest) => (c :: text, rest)
    if c = '<' then more (isOpen + 1)
    else if c = '>' then if isOpen = 0 then some ([], cs) else more (isOpen - 1)
    else more isOpen

/-- Whether a text begins with another one, whatever the case of ASCII letters. -/
def beginsWith (start : String) (cs : List Char) : Bool :=
  (cs.take start.length).map Char.toLower = start.toList.map Char.toLower

/-- The event of markup behind an exclamation mark, and what follows it. -/
def declared? (cs : List Char) : Option (Option Event × List Char) :=
  match cs with
  | '-' :: _ => do
    let (_, rest) ← upTo? "-->".toList (cs.drop 2)
    return (if beginsWith "--" cs then some .other else none, rest)
  | '[' :: _ => do
    let (text, rest) ← upTo? "]]>".toList cs
    if beginsWith "[CDATA[" cs then return (some (.marked (String.ofList (text.drop 7))), rest)
    else return (none, rest)
  | c :: _ =>
    if c = 'D' || c = 'd' then do
      let (text, rest) ← typeEnd? 0 cs
      let type := (text.drop 7).dropWhile isBlank
      if beginsWith "DOCTYPE" text && !type.isEmpty then
        return (some (.documentType (String.ofList type)), rest)
      else return (none, rest)
    else some (none, cs)
  | [] => none

/-- The event of markup behind a question mark, and what follows it. -/
def instructed? (cs : List Char) : Option (Option Event × List Char) :=
  match cs with
  | '>' :: rest => some (none, rest)
  | cs => do
    let (text, rest) ← upTo? "?>".toList cs
    let behind := text.drop 3
    if "xml".toList.isPrefixOf text && behind.head?.all isBlank then
      return (some (.declaration (attributesOf [] behind.length behind)), rest)
    else return (some .other, rest)

/-! ## Events -/

/-- The first events of a text that begins with a bracket, and what follows them. -/
def markup? (cs : List Char) : Option (List (Option Event) × List Char) :=
  match cs with
  | '!' :: cs => (declared? cs).map fun (e, rest) => ([e], rest)
  | '?' :: cs => (instructed? cs).map fun (e, rest) => ([e], rest)
  | '/' :: cs => do
    let (text, rest) ← upTo? ['>'] cs
    let name := (text.reverse.dropWhile isBlank).reverse
    return ([some (.finish (String.ofList (if name.isEmpty then text else name)))], rest)
  | [] => none
  | cs => (tagEnd? none cs).map fun (text, rest) => (startTag text, rest)

/-- The events of a text, with nothing in the place of mistakes.  The limit is a number of parts. -/
def partsOf : (limit : Nat) → List Char → List (Option Event)
  | 0, _ | _, [] => []
  | limit + 1, '<' :: cs =>
    match markup? cs with
    | some (es, rest) => es ++ partsOf limit rest
    | none => [none]
  | limit + 1, cs =>
    some (.text (String.ofList (cs.takeWhile (· ≠ '<')))) :: partsOf limit (cs.dropWhile (· ≠ '<'))

/-- Events with nothing in the place of end tags that do not fit the last start tag that is open,
given the names of what is open. -/
def balanced (isOpen : List String) : List (Option Event) → List (Option Event)
  | [] => []
  | some (.start n attributes) :: rest => some (.start n attributes) :: balanced (n :: isOpen) rest
  | some (.finish n) :: rest =>
    match isOpen with
    | m :: outer => (if n = m then some (.finish n) else none) :: balanced outer rest
    | [] => none :: balanced [] rest
  | e :: rest => e :: balanced isOpen rest

/-- The events of a document behind a mark of the order of bytes, with nothing in the place of
mistakes. -/
def events (text : String) : List (Option Event) :=
  let cs := text.toList
  let cs := if cs.head? = some '\uFEFF' then cs.tail else cs
  balanced [] (partsOf (cs.length + 1) cs)

/-- A text without white space at its ends. -/
def trimmed (cs : List Char) : List Char :=
  ((cs.dropWhile isBlank).reverse.dropWhile isBlank).reverse

/-- An event without white space at the ends of its text, if anything is left. -/
def Event.trimmed? : Event → Option Event
  | .text s =>
    let cs := trimmed s.toList
    if cs.isEmpty then none else some (.text (String.ofList cs))
  | e => some e

/-- The events of a document in which white space does not count. -/
def trimmedEvents (text : String) : List (Option Event) :=
  (events text).filterMap fun
    | some e => e.trimmed?.map some
    | none => some none

/-! ## Names and entities -/

/-- A character of a text. -/
def encodeChar (c : Char) : List Char :=
  match c with
  | '<' => "&lt;".toList
  | '>' => "&gt;".toList
  | '&' => "&amp;".toList
  | '\'' => "&apos;".toList
  | '"' => "&quot;".toList
  | c => [c]

/-- A text with entities in the place of characters that mark up text. -/
def escape (s : String) : String := String.ofList (s.toList.flatMap encodeChar)

/-- A name without what stands before its colon. -/
def localName (n : String) : String :=
  match n.toList.dropWhile (· ≠ ':') with
  | _ :: rest => String.ofList rest
  | [] => n

/-- The number that digits stand for. -/
def digitsValue? (base : Nat) (digits : List Char) : Option Nat :=
  let value (c : Char) : Option Nat :=
    if c.isDigit then some (c.toNat - '0'.toNat)
    else if 'a' ≤ c && c ≤ 'f' then some (c.toNat - 'a'.toNat + 10)
    else if 'A' ≤ c && c ≤ 'F' then some (c.toNat - 'A'.toNat + 10)
    else none
  let step (n : Option Nat) (c : Char) : Option Nat := do
    let d ← value c
    if d < base then return base * (← n) + d else none
  if digits.isEmpty then none else digits.foldl step (some 0)

/-- The character that an entity stands for. -/
def entity? (cs : List Char) : Option Char :=
  let coded (n : Option Nat) : Option Char := do
    let n ← n
    if h : n.isValidChar then
      if n = 0 then none else some (Char.ofNatAux n h)
    else none
  match cs with
  | ['l', 't'] => some '<'
  | ['g', 't'] => some '>'
  | ['a', 'm', 'p'] => some '&'
  | ['a', 'p', 'o', 's'] => some '\''
  | ['q', 'u', 'o', 't'] => some '"'
  | '#' :: 'x' :: digits => coded (digitsValue? 16 digits)
  | '#' :: digits => coded (digitsValue? 10 digits)
  | _ => none

/-- A text with what entities stand for in their places, given the meaning of some of them.  An
entity that has been opened collects its characters, the last one first. -/
def unescapeWith? (meaning : String → Option String) (opened : Option (List Char)) :
    List Char → Option (List Char)
  | [] => if opened.isSome then none else some []
  | c :: rest =>
    match opened with
    | none =>
      if c = '&' then unescapeWith? meaning (some []) rest
      else (unescapeWith? meaning none rest).map (c :: ·)
    | some cs =>
      if c = ';' then do
        let name := cs.reverse
        let value ←
          match entity? name with
          | some e => some [e]
          | none =>
            if name.head? = some '#' then none else (meaning (String.ofList name)).map (·.toList)
        return value ++ (← unescapeWith? meaning none rest)
      else if c = '&' then none
      else unescapeWith? meaning (some (c :: cs)) rest

/-- A text with characters in the place of entities. -/
def unescape? (s : String) : Option String :=
  (unescapeWith? (fun _ => none) none s.toList).map String.ofList

end XmlText

end SparqlStream
