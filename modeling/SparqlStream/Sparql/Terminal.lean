import SparqlStream.Syntax.Parser
import SparqlStream.Syntax.Terminal

/-!
# Terminals of queries

The smallest parts of queries: blanks and comments, numbers, IRIs, names and strings.  Names of
queries have no letters beyond the first 65536 characters.
-/

namespace SparqlStream

namespace Sparql

open Terminal (isBlank isNameMark)

variable {σ : Type}

/-! ## Blanks -/

/-- Reads a character. -/
def char (c : Char) : Parser Char σ Unit := Parser.exactly c

/-- Reads a comment. -/
def comment : Parser Char σ Unit := do
  char '#'
  let _ ← Parser.takeWhile fun c => c ≠ '\n' && c ≠ '\r'

/-- Reads blanks and comments. -/
def blanks : Parser Char σ Unit := do
  let _ ← Parser.many ((do let _ ← Parser.takeWhile1 isBlank) <|> comment)

/-- Reads something and the blanks behind it. -/
def word {α : Type} (p : Parser Char σ α) : Parser Char σ α := do
  let a ← p
  blanks
  return a

/-- Reads a mark and the blanks behind it. -/
def mark (m : String) : Parser Char σ Unit := word (Parser.text m)

/-! ## Numbers -/

/-- Reads an exponent. -/
def exponent : Parser Char σ Unit := do
  let _ ← Parser.satisfy fun c => c = 'e' || c = 'E'
  let _ ← Parser.optionally (Parser.satisfy fun c => c = '+' || c = '-')
  let _ ← Parser.takeWhile1 Char.isDigit

/-- Reads a number without sign.  A point belongs to it if digits or an exponent follow. -/
def number : Parser Char σ Terminal.NumberKind := do
  let digits := Parser.takeWhile1 (σ := σ) Char.isDigit
  Parser.firstOf
    [ (do
        (do let _ ← digits; char '.'; let _ ← Parser.takeWhile Char.isDigit)
          <|> (do char '.'; let _ ← digits) <|> (do let _ ← digits)
        exponent
        return .double),
      (do
        let _ ← Parser.takeWhile Char.isDigit
        char '.'
        let _ ← digits
        return .decimal),
      (do
        let _ ← digits
        return .integer) ]

/-! ## IRIs and names -/

/-- Reads the text of an IRI between angle brackets. -/
def iriText : Parser Char σ String := do
  char '<'
  let cs ← Parser.takeWhile (· ≠ '>')
  char '>'
  return String.ofList (← Parser.ofOption (Terminal.unescape? false cs))

/-- Whether a character is a letter of names. -/
def isNameLetter (c : Char) : Bool := Terminal.isNameLetter c && c.toNat < 0x10000

/-- Whether a character is a letter of names or an underscore. -/
def isNameStart (c : Char) : Bool := isNameLetter c || c = '_'

/-- Whether a character can stand behind the first one in the name of a variable. -/
def isVariableChar (c : Char) : Bool := isNameStart c || c.isDigit || isNameMark c

/-- Whether a character can stand behind the first one in other names. -/
def isNameChar (c : Char) : Bool := isVariableChar c || c = '-'

/-- Reads points and something behind them, at least once. -/
def dotted (p : Parser Char σ Unit) : Parser Char σ Unit := do
  let _ ← Parser.takeWhile1 (· = '.')
  let _ ← Parser.many1 p

/-- Reads a name before a colon, and the colon. -/
def nameSpace : Parser Char σ String := do
  let inner : Parser Char σ Unit := do let _ ← Parser.satisfy isNameChar
  let cs ← Parser.written (Parser.optionally do
    let _ ← Parser.satisfy isNameLetter
    let _ ← Parser.many inner
    Parser.many (dotted inner))
  char ':'
  return String.ofList cs

/-- Reads a character of a local name that is written by its code or escaped. -/
def escapedChar : Parser Char σ Unit :=
  (do
    char '%'
    let _ ← Parser.satisfy IriReference.isHexDigit
    let _ ← Parser.satisfy IriReference.isHexDigit)
  <|> (do
    char '\\'
    let _ ← Parser.satisfy Terminal.escapable.contains)

/-- Reads a local name.  It has points in at most one place. -/
def localName : Parser Char σ String := do
  let inner : Parser Char σ Unit :=
    (do let _ ← Parser.satisfy fun c => isNameChar c || c = ':') <|> escapedChar
  let cs ← Parser.written do
    (do let _ ← Parser.satisfy fun c => isNameStart c || c = ':' || c.isDigit) <|> escapedChar
    let _ ← Parser.many inner
    Parser.optionally (dotted inner)
  return String.ofList (cs.filter (· ≠ '\\'))

/-- Reads the label of a blank node. -/
def blankLabel : Parser Char σ String := do
  Parser.text "_:"
  let inner : Parser Char σ Unit := do let _ ← Parser.satisfy isNameChar
  let cs ← Parser.written do
    let _ ← Parser.satisfy fun c => isNameStart c || c.isDigit
    let _ ← Parser.many inner
    Parser.many (dotted inner)
  return String.ofList cs

/-! ## Strings and language tags -/

/-- Reads an escape in a string, as it is written. -/
def stringEscape : Parser Char σ Unit := do
  char '\\'
  let hex (n : Nat) : Parser Char σ Unit := do
    let cs ← Parser.manyAtMost (Parser.satisfy IriReference.isHexDigit) n
    Parser.check (cs.length = n)
  (do char 'u'; hex 4) <|> (do char 'U'; hex 8)
    <|> (do let _ ← Parser.satisfy fun c => (Terminal.charOfLetter? c).isSome)

/-- Reads a string between three quotes. -/
def longString (quote : Char) : Parser Char σ (List Char) := do
  let three := String.ofList [quote, quote, quote]
  Parser.text three
  let cs ← Parser.written (Parser.many do
    Parser.notFollowedBy (Parser.text three)
    (do let _ ← Parser.satisfy (· ≠ '\\')) <|> stringEscape)
  Parser.text three
  return cs

/-- Reads a string between single quotes. -/
def shortString (quote : Char) : Parser Char σ (List Char) := do
  char quote
  let plain (c : Char) : Bool := c ≠ quote && c ≠ '\\' && c ≠ '\n' && c ≠ '\r'
  let cs ← Parser.written (Parser.many ((do let _ ← Parser.takeWhile1 plain) <|> stringEscape))
  char quote
  return cs

/-- Reads a string in any of the four kinds of quotes. -/
def string : Parser Char σ String := do
  let cs ← longString '\'' <|> longString '"' <|> shortString '\'' <|> shortString '"'
  return String.ofList (← Parser.ofOption (Terminal.unescape? true cs))

/-- Reads a language tag, which counts in lower case. -/
def languageTag : Parser Char σ String := do
  char '@'
  let cs ← Parser.written do
    let _ ← Parser.takeWhile1 Char.isAlpha
    Parser.many do
      char '-'
      Parser.takeWhile1 Char.isAlphanum
  Parser.check (LanguageTag.isValid cs)
  return String.ofList (cs.map Char.toLower)

end Sparql

end SparqlStream
