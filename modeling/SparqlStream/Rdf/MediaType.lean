import SparqlStream.Unicode.Property

/-!
# Names of formats

How formats are looked up by names, in which the case of ASCII letters does not matter, and how the
types of media that name formats are taken apart.
-/

namespace SparqlStream

/-- Whether texts are the same, whatever the case of ASCII letters. -/
def sameFolded (a b : String) : Bool := a.toList.map Char.toLower = b.toList.map Char.toLower

/-- What a table of names says of a name. -/
def lookupFolded? {α : Type} (table : List (String × α)) (name : String) : Option α :=
  (table.find? fun entry => sameFolded entry.1 name).map (·.2)

namespace MediaType

open Unicode (trimmed)

/-- The two parts of a text around the first occurrence of a character. -/
def splitAt? (c : Char) (cs : List Char) : Option (List Char × List Char) :=
  match cs.dropWhile (· ≠ c) with
  | _ :: rest => some (cs.takeWhile (· ≠ c), rest)
  | [] => none

/-- A type of media without its parameters, and its parameters. -/
def parts (text : String) : List Char × List Char :=
  (splitAt? ';' text.toList).getD (text.toList, [])

/-- The part of a type of media that tells formats apart: what stands behind the slash, without a
mark of experimental types. -/
def subtype? (text : String) : Option String := do
  let (main, rest) ← splitAt? '/' (parts text).1
  let main := String.ofList (trimmed main)
  if sameFolded main "application" || sameFolded main "text" then
    match trimmed rest with
    | 'x' :: '-' :: name => some (String.ofList name)
    | name => some (String.ofList name)
  else none

/-- The parameters of a type of media, of which each has a name and a value. -/
def parameters? (text : String) : Option (List (String × String)) :=
  match trimmed (parts text).2 with
  | [] => some []
  | cs =>
    (cs.splitOn ';').mapM fun parameter => do
      let (name, value) ← splitAt? '=' parameter
      return (String.ofList (trimmed name), String.ofList (trimmed value))

end MediaType

end SparqlStream
