import SparqlStream.Regex.Basic
import SparqlStream.Regex.Mode
import SparqlStream.Regex.Property

/-!
# Escapes

What a backslash introduces: a character that would mean something else, a character by its code, a
class of characters, or a condition on the position.
-/

namespace SparqlStream.Regex

/-- What a backslash introduces. -/
inductive Escape where
  | char (c : Char)
  | set (s : CharSet)
  | condition (l : Look)

/-- A reader of the beginning of a text. -/
abbrev ReadPart (α : Type) := List Char → Option (α × List Char)

/-! ## Codes -/

/-- The value of a hexadecimal digit. -/
def hexValue? (c : Char) : Option Nat :=
  if c.isDigit then some (c.toNat - '0'.toNat)
  else if 'a' ≤ c ∧ c ≤ 'f' then some (c.toNat - 'a'.toNat + 10)
  else if 'A' ≤ c ∧ c ≤ 'F' then some (c.toNat - 'A'.toNat + 10)
  else none

/-- The character with a code, which must not be half of a surrogate pair. -/
def charOfCode? (digits : List Nat) : Option Char :=
  let n := digits.foldl (fun n d => 16 * n + d) 0
  if n < 0xD800 ∨ (0xDFFF < n ∧ n < 0x110000) then some (Char.ofNat n) else none

/-- Some digits. -/
def readDigits (m : Mode) : (count : Nat) → ReadPart (List Nat)
  | 0, cs => some ([], cs)
  | _ + 1, [] => none
  | count + 1, c :: rest => do
    let d ← hexValue? c
    let (ds, rest) ← readDigits m count (m.skip rest)
    return (d :: ds, rest)

/-- Digits up to a closing brace. -/
def readBracedDigits (m : Mode) : (limit : Nat) → ReadPart (List Nat)
  | limit + 1, c :: rest =>
    if c = '}' then some ([], m.skip rest)
    else do
      let d ← hexValue? c
      let (ds, rest) ← readBracedDigits m limit (m.skip rest)
      return (d :: ds, rest)
  | _, _ => none

/-- A code in braces or with a fixed number of digits.  Two digits stand for a byte if there are no
characters of all scripts. -/
def readCode (m : Mode) (letter : Char) (width : Nat) : ReadPart Char := fun cs => do
  match ← m.next? (letter :: cs) with
  | '{' :: rest =>
    let (ds, rest) ← readBracedDigits m (rest.length + 1) (m.skip rest)
    if ds.isEmpty then none else return (← charOfCode? ds, rest)
  | cs =>
    let (ds, rest) ← readDigits m width cs
    let c ← charOfCode? ds
    if !m.unicode && letter = 'x' && 0x7F < c.toNat then none else return (c, rest)

/-! ## Properties -/

/-- The name of a property up to a closing brace. -/
def readPropertyName (m : Mode) : (limit : Nat) → ReadPart (List Char)
  | limit + 1, c :: rest =>
    if c = '}' then some ([], rest)
    else do
      let (name, rest) ← readPropertyName m limit (m.skip rest)
      return (c :: name, rest)
  | _, _ => none

/-- A property, which is named by a single letter or in braces. -/
def readProperty (m : Mode) (letter : Char) : ReadPart CharSet := fun cs => do
  match ← m.next? (letter :: cs) with
  | '{' :: rest =>
    let (name, rest) ← readPropertyName m (rest.length + 1) (m.skip rest)
    return (← namedProperty? name, rest)
  | '\\' :: _ | [] => none
  | c :: rest => return (← propertySet? [c], rest)

/-! ## Conditions -/

/-- The conditions at the boundaries of words that have names. -/
def boundary? (isAscii : Bool) (name : String) : Option Look :=
  match name with
  | "start" => some (.wordStart isAscii)
  | "end" => some (.wordEnd isAscii)
  | "start-half" => some (.wordStartHalf isAscii)
  | "end-half" => some (.wordEndHalf isAscii)
  | _ => none

/-- Whether a character may stand in the name of a condition. -/
def isBoundaryChar (c : Char) : Bool := c.isAlpha || c == '-'

/-- The name of a condition. -/
def readBoundaryName (m : Mode) : (limit : Nat) → List Char → List Char × List Char
  | limit + 1, c :: rest =>
    if isBoundaryChar c then
      let (name, rest) := readBoundaryName m limit (m.skip rest)
      (c :: name, rest)
    else ([], c :: rest)
  | _, cs => ([], cs)

/-- The condition of `\b` and what may follow it in braces.  Braces without a name belong to a
repetition. -/
def readBoundary (m : Mode) : ReadPart Look := fun cs => do
  let plain : Look := .wordBoundary !m.unicode
  match cs with
  | '{' :: _ =>
    let inside ← m.next? cs
    if inside.head?.any isBoundaryChar then
      match readBoundaryName m inside.length inside with
      | (name, '}' :: rest) => return (← boundary? (!m.unicode) (String.ofList name), rest)
      | _ => none
    else return (plain, cs)
  | cs => return (plain, cs)

/-! ## Escapes -/

/-- The characters that mean something else without a backslash. -/
def isMeta (c : Char) : Bool := "\\.+*?()|[]\x7b\x7d^$#&-~".toList.contains c

/-- Whether a backslash may stand before a character that means itself. -/
def mayBeEscaped (c : Char) : Bool :=
  isMeta c || (c.toNat < 0x80 && !c.isAlphanum && c != '<' && c != '>')

/-- The class with a letter.  Without the characters of all scripts it is its ASCII part. -/
def classSet? (m : Mode) (letter : Char) : Option CharSet :=
  let full : Option CharSet :=
    match letter with
    | 'd' => some Unicode.digit
    | 's' => some Unicode.Property.whiteSpace
    | 'w' => some Unicode.word
    | _ => none
  full.map fun s => if m.unicode then s else s ∩ .range 0 0x7f

/-- The character that a letter stands for. -/
def controlChar? : Char → Option Char
  | 'a' => some '\x07'
  | 'f' => some '\x0c'
  | 't' => some '\t'
  | 'n' => some '\n'
  | 'r' => some '\r'
  | 'v' => some '\x0b'
  | _ => none

/-- The condition that a letter or a mark stands for. -/
def condition? (m : Mode) : Char → Option Look
  | 'A' => some .textStart
  | 'z' => some .textEnd
  | 'B' => some (.notWordBoundary !m.unicode)
  | '<' => some (.wordStart !m.unicode)
  | '>' => some (.wordEnd !m.unicode)
  | _ => none

/-- Reads what follows a backslash. -/
def readEscape (m : Mode) : ReadPart Escape
  | [] => none
  | c :: rest =>
    let code (width : Nat) : Option (Escape × List Char) :=
      (readCode m c width rest).map fun (c, rest) => (.char c, rest)
    let property (isNegated : Bool) : Option (Escape × List Char) := do
      let (s, rest) ← readProperty m c rest
      if m.unicode then return (.set (← m.negate? isNegated s), rest) else none
    match c with
    | 'x' => code 2
    | 'u' => code 4
    | 'U' => code 8
    | 'p' => property false
    | 'P' => property true
    | 'b' => (readBoundary m rest).map fun (l, rest) => (.condition l, rest)
    | c =>
      match controlChar? c, condition? m c, classSet? m c, classSet? m c.toLower with
      | some c, _, _, _ => some (.char c, rest)
      | _, some l, _, _ => some (.condition l, rest)
      | _, _, some s, _ => some (.set s, rest)
      | _, _, _, some s => (m.admit? s.compl).map fun s => (.set s, rest)
      | _, _, _, _ => if mayBeEscaped c then some (.char c, rest) else none

end SparqlStream.Regex
