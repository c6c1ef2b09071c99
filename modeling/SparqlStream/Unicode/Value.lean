import SparqlStream.Unicode.AgeTable
import SparqlStream.Unicode.BreakTable
import SparqlStream.Unicode.Property
import SparqlStream.Unicode.ScriptTable

/-!
# Properties with values

The characters with a value of a property: a script, a version of the standard, or a class for the
boundaries of clusters, words and sentences.
-/

namespace SparqlStream.Unicode

/-- The characters that a table of texts gives for a name. -/
def lookupText? (table : List (List String × String)) (name : String) : Option CharSet :=
  (table.find? fun e => e.1.contains name).map fun e => .ofText e.2

/-! ## Scripts -/

namespace Script

/-- The entry of a script that has a name. -/
def named? (name : String) : Option ScriptEntry :=
  scriptEntries.find? fun s => s.names.contains name

/-- The characters of a script. -/
def ofName? (name : String) : Option CharSet := (named? name).map fun s => .ofText s.characters

/-- The characters that scripts share. -/
def shared : CharSet := .unionAll (scriptEntries.map fun s => .ofText s.shared)

/-- The characters that are used in a script.  What scripts share is not common to all. -/
def extendedOfName? (name : String) : Option CharSet :=
  (named? name).map fun s =>
    let own : CharSet := .ofText s.characters
    if s.names.contains "common" || s.names.contains "inherited" then own \ shared
    else own ∪ .ofText s.shared

end Script

/-! ## Ages -/

namespace Age

/-- The names of a version, in lower case. -/
def names (v : Nat × Nat) : List String :=
  [toString v.1 ++ "." ++ toString v.2, "v" ++ toString v.1 ++ toString v.2]

/-- The characters of all versions up to the one with a name. -/
def ofName? (name : String) : Option CharSet :=
  if ageTexts.any fun a => (names a.1).contains name then
    let before := ageTexts.takeWhile fun a => !(names a.1).contains name
    some (.unionAll ((ageTexts.take (before.length + 1)).map fun a => .ofText a.2))
  else none

end Age

/-! ## Boundaries -/

namespace Cluster

/-- The syllables without a final consonant, of which every 28th is one. -/
def openSyllables : CharSet :=
  ⟨(List.range 399).map fun i => (0xAC00 + 28 * i, 0xAC00 + 28 * i)⟩

/-- The characters of a class for clusters. -/
def ofName? (name : String) : Option CharSet :=
  match name with
  | "extend" | "ex" => some (Property.graphemeExtend ∪ Property.listed "emojimodifier")
  | "lv" => some openSyllables
  | "lvt" => some (.range 0xAC00 0xD7A3 \ openSyllables)
  | name => lookupText? clusterTexts name

end Cluster

namespace Word

/-- The characters of a class for words. -/
def ofName? (name : String) : Option CharSet :=
  match name with
  | "extend" =>
    some (Property.graphemeExtend ∪ Category.setOf [.spacingMark] ∪ Property.listed "emojimodifier")
  | name => lookupText? wordTexts name

end Word

namespace Sentence

/-- The characters that belong to the one before them. -/
def extend : CharSet :=
  Property.graphemeExtend ∪ Category.setOf [.spacingMark] ∪ .range 0x200D 0x200D

/-- The letters that go on a sentence. -/
def lower : CharSet := Property.lowercase \ .ofText "345 10D0-10FA 10FD-10FF"

/-- The letters that begin a sentence. -/
def upper : CharSet :=
  (Property.uppercase ∪ Category.setOf [.titleLetter]) \ .ofText "1C90-1CBA 1CBD-1CBF"

/-- The letters that neither begin nor go on a sentence. -/
def otherLetter : CharSet := (Property.alphabetic \ (lower ∪ upper ∪ extend)) ∪ .range 0x5F3 0x5F3

/-- The characters of a class for sentences. -/
def ofName? (name : String) : Option CharSet :=
  match name with
  | "extend" | "ex" => some extend
  | "lower" | "lo" => some lower
  | "upper" | "up" => some upper
  | "oletter" | "le" => some otherLetter
  | "numeric" | "nu" => (Word.ofName? "numeric").map (· ∪ .range 0x66C 0x66C)
  | name => lookupText? sentenceTexts name

end Sentence

end SparqlStream.Unicode
