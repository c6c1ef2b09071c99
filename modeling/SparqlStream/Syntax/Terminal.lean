import SparqlStream.Iri.Reference
import SparqlStream.Syntax.LanguageTag

/-!
# Terminals

What the languages for data and for queries share about their smallest parts: blanks, the
characters of names, escapes, and the kinds of numbers.
-/

namespace SparqlStream

namespace Terminal

/-- Whether a character is a blank. -/
def isBlank (c : Char) : Bool := c = ' ' || c = '\t' || c = '\n' || c = '\r'

/-! ## Names -/

/-- The letters of names. -/
def nameLetters : List (Nat × Nat) :=
  [(0x41, 0x5A), (0x61, 0x7A), (0xC0, 0xD6), (0xD8, 0xF6), (0xF8, 0x2FF), (0x370, 0x37D),
    (0x37F, 0x1FFF), (0x200C, 0x200D), (0x2070, 0x218F), (0x2C00, 0x2FEF), (0x3001, 0xD7FF),
    (0xF900, 0xFDCF), (0xFDF0, 0xFFFD), (0x10000, 0xEFFFF)]

/-- Whether a character is a letter of names. -/
def isNameLetter (c : Char) : Bool :=
  nameLetters.any fun (low, high) => low ≤ c.toNat && c.toNat ≤ high

/-- Whether a character is a letter of names or an underscore. -/
def isNameStart (c : Char) : Bool := isNameLetter c || c = '_'

/-- Whether a character belongs to names, but not to their beginning, and is no digit. -/
def isNameMark (c : Char) : Bool :=
  c = '\u00B7' || (0x300 ≤ c.toNat && c.toNat ≤ 0x36F) || (0x203F ≤ c.toNat && c.toNat ≤ 0x2040)

/-- Whether a character can stand behind the first one in the name of a variable. -/
def isVariableChar (c : Char) : Bool := isNameStart c || c.isDigit || isNameMark c

/-- Whether a character can stand behind the first one in other names. -/
def isNameChar (c : Char) : Bool := isVariableChar c || c = '-'

/-- The characters that can be escaped in a local name. -/
def escapable : List Char := "_~.-!$&'()*+,;=/?#@%".toList

/-! ## Escapes -/

/-- The value of a hexadecimal digit. -/
def hexValue (c : Char) : Nat :=
  if c.isDigit then c.toNat - '0'.toNat
  else if c.toNat ≤ 'F'.toNat then c.toNat - 'A'.toNat + 10
  else c.toNat - 'a'.toNat + 10

/-- The character with a code in hexadecimal digits. -/
def charOfHex? (digits : List Char) : Option Char :=
  if !digits.isEmpty && digits.all IriReference.isHexDigit then
    let n := digits.foldl (fun n c => 16 * n + hexValue c) 0
    if h : n.isValidChar then some (Char.ofNatAux n h) else none
  else none

/-- The character with a code in hexadecimal digits, of which the first one may be a plus sign. -/
def charOfSignedHex? (digits : List Char) : Option Char :=
  match digits with
  | '+' :: digits => charOfHex? digits
  | digits => charOfHex? digits

/-- The character that a letter stands for behind a backslash. -/
def charOfLetter? (c : Char) : Option Char :=
  match c with
  | 't' => some '\t'
  | 'b' => some '\x08'
  | 'n' => some '\n'
  | 'r' => some '\r'
  | 'f' => some '\x0c'
  | '"' => some '"'
  | '\'' => some '\''
  | '\\' => some '\\'
  | _ => none

/-- A text without its escapes by code, or by letter where that is allowed. -/
def unescape? (letters : Bool) : List Char → Option (List Char)
  | [] => some []
  | '\\' :: 'u' :: a :: b :: c :: d :: rest => do
    return (← charOfSignedHex? [a, b, c, d]) :: (← unescape? letters rest)
  | '\\' :: 'U' :: a :: b :: c :: d :: e :: f :: g :: h :: rest => do
    return (← charOfSignedHex? [a, b, c, d, e, f, g, h]) :: (← unescape? letters rest)
  | '\\' :: c :: rest =>
    if letters then do return (← charOfLetter? c) :: (← unescape? letters rest) else none
  | c :: rest => if c = '\\' then none else (unescape? letters rest).map (c :: ·)

/-! ## Numbers -/

/-- Which kind of number a text is. -/
inductive NumberKind where
  | integer
  | decimal
  | double
  deriving DecidableEq, Repr

/-- The datatype of a kind of number. -/
def NumberKind.datatype : NumberKind → Iri
  | integer => Xsd.integer
  | decimal => Xsd.decimal
  | double => Xsd.double

end Terminal

end SparqlStream
