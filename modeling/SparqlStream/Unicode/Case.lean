import SparqlStream.Unicode.CaseRun
import SparqlStream.Unicode.Property

/-!
# Upper and lower case

The case mappings of whole texts, in all scripts and without regard to a language.  One letter
depends on its surroundings: a capital sigma that ends a word becomes a final sigma.
-/

namespace SparqlStream.Unicode

/-- A character mapped by a table of expansions, or else by runs. -/
def mapCase (expansions : List (Nat × List Nat)) (runs : List CaseRun) (c : Char) : List Char :=
  match expansions.lookup c.toNat with
  | some ns => ns.map Char.ofNat
  | none =>
    match runs.find? (·.moves c.toNat) with
    | some r => [Char.ofNat (r.apply c.toNat)]
    | none => [c]

/-- The upper case of a character. -/
def upper (c : Char) : List Char :=
  if c.toNat < 0x80 then [c.toUpper] else mapCase upperExpansions upperRuns c

/-- The lower case of a character that stands alone. -/
def lower (c : Char) : List Char :=
  if c.toNat < 0x80 then [c.toLower] else mapCase lowerExpansions lowerRuns c

/-- Whether the first character that is not skipped has a case. -/
def startsCased (cs : List Char) : Bool :=
  match cs.dropWhile Property.caseIgnorable.contains with
  | c :: _ => Property.cased.contains c
  | [] => false

/-- The lower case of a text, given the characters before it from the last to the first. -/
def lowerAfter (before : List Char) : List Char → List Char
  | [] => []
  | 'Σ' :: rest =>
    (if startsCased before && !startsCased rest then 'ς' else 'σ')
      :: lowerAfter ('Σ' :: before) rest
  | c :: rest => lower c ++ lowerAfter (c :: before) rest

/-- The upper case of a text. -/
def toUpper (s : String) : String := String.ofList (s.toList.flatMap upper)

/-- The lower case of a text. -/
def toLower (s : String) : String := String.ofList (lowerAfter [] s.toList)

end SparqlStream.Unicode
