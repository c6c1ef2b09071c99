import SparqlStream.Syntax.Terminal

/-!
# JSON as events

Reads a text as a list of events: the beginnings and ends of arrays and objects, keys, and plain
values.  What is wrong with the text stands between the events, at the place where it is noticed,
and reading goes on behind it.
-/

namespace SparqlStream

namespace JsonText

/-! ## Words -/

/-- The words of a text. -/
inductive Token where
  | openArray
  | closeArray
  | openObject
  | closeObject
  | comma
  | colon
  | string (s : String)
  | number (written : String)
  | boolean (b : Bool)
  | null
  deriving DecidableEq, Repr

/-- What a text is taken apart into: words, mistakes, and the beginning of a word that the end of
the text has cut off. -/
inductive Lexeme where
  | token (t : Token)
  | wrong
  | cut
  deriving DecidableEq, Repr

/-- What the beginning of a text is, how many mistakes follow it, and what is left. -/
structure Reading where
  lexeme : Lexeme
  mistakes : Nat
  rest : List Char

namespace Reading

/-- A word. -/
def token (t : Token) (rest : List Char) : Reading := ⟨.token t, 0, rest⟩

/-- The beginning of a word at the end of the text. -/
def cut : Reading := ⟨.cut, 0, []⟩

/-- A mistake that ends with the first byte of a character.  Each further byte is another one. -/
def wrongAt (c : Char) (rest : List Char) : Reading := ⟨.wrong, c.utf8Size - 1, rest⟩

end Reading

/-! ### Strings -/

/-- What is left behind a number of bytes and the character that the last one belongs to, if there
are so many bytes. -/
def behindBytes? : Nat → List Char → Option (List Char)
  | 0, cs => some cs
  | _ + 1, [] => none
  | n + 1, c :: cs => behindBytes? (n + 1 - c.utf8Size) cs

/-- The number that four hexadecimal digits make. -/
def unit? (cs : List Char) : Option Nat :=
  let digits := cs.take 4
  if digits.length = 4 && digits.all IriReference.isHexDigit then
    some (digits.foldl (fun n c => 16 * n + Terminal.hexValue c) 0)
  else none

/-- What an escape behind `\u` stands for, if it stands for something, and how many bytes it takes.
A code from the first half of a pair, or from the second one, takes six more bytes for its
partner. -/
def coded (cs : List Char) : Option Char × Nat :=
  match unit? cs with
  | none => (none, 4)
  | some high =>
    if 0xD800 ≤ high && high < 0xE000 then
      match cs.drop 4 with
      | '\\' :: 'u' :: more =>
        match unit? more with
        | some low =>
          if high < 0xDC00 && 0xDC00 ≤ low && low < 0xE000 then
            (some (Char.ofNat (0x10000 + (high - 0xD800) * 0x400 + (low - 0xDC00))), 10)
          else (none, 10)
        | none => (none, 10)
      | _ => (none, 10)
    else (some (Char.ofNat high), 4)

/-- The character that a letter stands for behind a backslash. -/
def escaped? (c : Char) : Option Char :=
  match c with
  | '"' => some '"'
  | '\\' => some '\\'
  | '/' => some '/'
  | 'b' => some '\x08'
  | 'f' => some '\x0c'
  | 'n' => some '\n'
  | 'r' => some '\r'
  | 't' => some '\t'
  | _ => none

/-- The rest of a string.  What is wrong in a string is one mistake in its place.  The limit is a
number of characters. -/
def string (isRight : Bool) (before : List Char) : (limit : Nat) → List Char → Reading
  | limit + 1, c :: rest =>
    if c = '"' then
      if isRight then .token (.string (String.ofList before.reverse)) rest else ⟨.wrong, 0, rest⟩
    else if c = '\\' then
      match rest with
      | 'u' :: rest =>
        let (e, n) := coded rest
        match behindBytes? n rest with
        | some rest => string (isRight && e.isSome) (e.toList ++ before) limit rest
        | none => .cut
      | d :: rest =>
        let e := escaped? d
        string (isRight && e.isSome) (e.toList ++ before) limit rest
      | [] => .cut
    else string (isRight && 0x20 ≤ c.toNat) (c :: before) limit rest
  | _, _ => .cut

/-! ### Other words -/

/-- A word that is one of three constants.  In place of another word all letters are one mistake. -/
def constant (name : String) (t : Token) (cs : List Char) : Reading :=
  if name.toList.isPrefixOf cs then .token t (cs.drop name.length)
  else if (behindBytes? name.length cs).isNone then .cut
  else ⟨.wrong, 0, (cs.drop 1).dropWhile Char.isAlpha⟩

/-- The digits at the beginning of a text, which are needed, and what is left behind them. -/
def digits (next : List Char → Reading) : List Char → Reading
  | [] => .cut
  | c :: rest => if c.isDigit then next (rest.dropWhile Char.isDigit) else .wrongAt c rest

/-- A number.  A character that cannot go on the number is part of the mistake. -/
def number (cs : List Char) : Reading :=
  let finish (rest : List Char) : Reading :=
    .token (.number (String.ofList (cs.take (cs.length - rest.length)))) rest
  let exponent (rest : List Char) : Reading :=
    match rest with
    | 'e' :: rest | 'E' :: rest =>
      match rest with
      | '+' :: rest | '-' :: rest => digits finish rest
      | rest => digits finish rest
    | rest => finish rest
  let fraction (rest : List Char) : Reading :=
    match rest with
    | '.' :: rest => digits exponent rest
    | rest => exponent rest
  let integer (rest : List Char) : Reading :=
    match rest with
    | '0' :: rest => fraction rest
    | rest => digits fraction rest
  match cs with
  | '-' :: rest => integer rest
  | cs => integer cs

/-- The word at the beginning of a text that begins with no blank. -/
def first (c : Char) (rest : List Char) : Reading :=
  match c with
  | '[' => .token .openArray rest
  | ']' => .token .closeArray rest
  | '\x7b' => .token .openObject rest
  | '\x7d' => .token .closeObject rest
  | ',' => .token .comma rest
  | ':' => .token .colon rest
  | '"' => string true [] (rest.length + 1) rest
  | 't' => constant "true" (.boolean true) (c :: rest)
  | 'f' => constant "false" (.boolean false) (c :: rest)
  | 'n' => constant "null" .null (c :: rest)
  | c => if c = '-' || c.isDigit then number (c :: rest) else .wrongAt c rest

/-- What characters are taken apart into.  The limit is a number of words. -/
def lexemesOf : (limit : Nat) → List Char → List Lexeme
  | 0, _ => []
  | limit + 1, cs =>
    match cs.dropWhile Terminal.isBlank with
    | [] => []
    | c :: rest =>
      let r := first c rest
      r.lexeme :: List.replicate r.mistakes .wrong
        ++ (if r.lexeme = .cut then [] else lexemesOf limit r.rest)

/-- What a text is taken apart into, behind a mark of the order of bytes. -/
def lexemes (text : String) : List Lexeme :=
  let cs := text.toList
  lexemesOf (cs.length + 1) (if cs.head? = some '\uFEFF' then cs.tail else cs)

/-! ## Events -/

/-- What a text consists of. -/
inductive Event where
  | startArray
  | endArray
  | startObject
  | endObject
  | key (s : String)
  | string (s : String)
  | number (written : String)
  | boolean (b : Bool)
  | null
  deriving DecidableEq, Repr

/-- What may come next in an array or object that has been opened. -/
inductive Expected where
  | keyOrEnd
  | key
  | colon
  | value
  | endOfMember
  | itemOrEnd
  | item
  | endOfItem
  deriving DecidableEq, Repr

/-- What a word means: an event or none, whether it is wrong, and what may come next in all arrays
and objects that are open, the innermost first. -/
structure Step where
  event : Option Event
  isWrong : Bool
  expected : List Expected

/-- A word in the place of a value. -/
def value (expected : List Expected) : Token → Step
  | .openArray => ⟨some .startArray, false, .itemOrEnd :: expected⟩
  | .openObject => ⟨some .startObject, false, .keyOrEnd :: expected⟩
  | .string s => ⟨some (.string s), false, expected⟩
  | .number n => ⟨some (.number n), false, expected⟩
  | .boolean b => ⟨some (.boolean b), false, expected⟩
  | .null => ⟨some .null, false, expected⟩
  | .closeArray | .closeObject | .comma | .colon => ⟨none, true, expected⟩

/-- A word in the place of a key. -/
def key (expected : List Expected) : Token → Step
  | .closeObject => ⟨some .endObject, true, expected⟩
  | .string s => ⟨some (.key s), false, .colon :: expected⟩
  | _ => ⟨none, true, .colon :: expected⟩

/-- A word in the place of an item. -/
def item (expected : List Expected) : Token → Step
  | .closeArray => ⟨some .endArray, true, expected⟩
  | t => value (.endOfItem :: expected) t

/-- A word in an array or object. -/
def inside (outer : List Expected) (t : Token) : Expected → Step
  | .keyOrEnd => if t = .closeObject then ⟨some .endObject, false, outer⟩ else key outer t
  | .key => key outer t
  | .colon =>
    if t = .colon then ⟨none, false, .value :: outer⟩
    else { value (.endOfMember :: outer) t with isWrong := true }
  | .value => value (.endOfMember :: outer) t
  | .endOfMember =>
    if t = .comma then ⟨none, false, .key :: outer⟩
    else if t = .closeObject then ⟨some .endObject, false, outer⟩
    else ⟨none, true, outer⟩
  | .itemOrEnd => if t = .closeArray then ⟨some .endArray, false, outer⟩ else item outer t
  | .item => item outer t
  | .endOfItem =>
    if t = .comma then ⟨none, false, .item :: outer⟩
    else if t = .closeArray then ⟨some .endArray, false, outer⟩
    else { item outer t with isWrong := true }

/-- How many mistakes there are where a text ends too early. -/
def mistakesAtEnd : List Expected → Nat
  | [] => 0
  | .keyOrEnd :: _ | .key :: _ => 2
  | .endOfMember :: outer => mistakesAtEnd outer + 1
  | _ :: _ => 1

/-- The events of what a text is taken apart into, with nothing in the place of mistakes. -/
def eventsOf (hasBegun : Bool) (expected : List Expected) : List Lexeme → List (Option Event)
  | [] => List.replicate (if hasBegun then mistakesAtEnd expected else 1) none
  | .cut :: _ => [none]
  | .wrong :: rest => none :: eventsOf hasBegun expected rest
  | .token t :: rest =>
    let s : Step :=
      match expected with
      | e :: outer => inside outer t e
      | [] => if hasBegun then ⟨none, true, []⟩ else value [] t
    (if s.isWrong then [none] else []) ++ (s.event.map some).toList ++ eventsOf true s.expected rest

/-- The events of a text, with nothing in the place of mistakes. -/
def events (text : String) : List (Option Event) := eventsOf false [] (lexemes text)

end JsonText

end SparqlStream
