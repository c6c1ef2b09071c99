/-!
# Writing JSON

Strings, arrays and objects as texts without white space.
-/

namespace SparqlStream

namespace JsonText

/-- A hexadecimal digit, in lower case. -/
def hexDigit (n : Nat) : Char :=
  Char.ofNat (if n < 10 then '0'.toNat + n else 'a'.toNat + (n - 10))

/-- A character of a string.  Control characters are written by a letter or by their code. -/
def encodeChar (c : Char) : List Char :=
  match c with
  | '\x08' => ['\\', 'b']
  | '\t' => ['\\', 't']
  | '\n' => ['\\', 'n']
  | '\x0c' => ['\\', 'f']
  | '\r' => ['\\', 'r']
  | '"' => ['\\', '"']
  | '\\' => ['\\', '\\']
  | c =>
    if c.toNat < 0x20 then
      ['\\', 'u', '0', '0', hexDigit (c.toNat / 16), hexDigit (c.toNat % 16)]
    else [c]

/-- A string. -/
def ofString (s : String) : String :=
  "\"" ++ String.ofList (s.toList.flatMap encodeChar) ++ "\""

/-- An array. -/
def ofItems (items : List String) : String := "[" ++ ",".intercalate items ++ "]"

/-- The beginning of a member of an object. -/
def ofKey (key : String) : String := ofString key ++ ":"

/-- An object. -/
def ofMembers (members : List (String × String)) : String :=
  "\x7b" ++ ",".intercalate (members.map fun (k, v) => ofKey k ++ v) ++ "\x7d"

end JsonText

end SparqlStream
