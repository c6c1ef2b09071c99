import SparqlStream.Unicode.Value

/-!
# Properties of characters

The sets of characters that an expression names by a property.  Case, blanks, hyphens and
underscores in names do not count, nor does `is` at the beginning of a name.
-/

namespace SparqlStream.Regex

/-- A name without what does not count.  `isc` is a name of its own. -/
def plainName (cs : List Char) : String :=
  let cs := cs.map Char.toLower
  let kept (cs : List Char) : List Char :=
    cs.filter fun c => c.toNat < 0x80 && c ≠ ' ' && c ≠ '-' && c ≠ '_'
  match cs with
  | 'i' :: 's' :: rest => if kept rest = ['c'] then "isc" else String.ofList (kept rest)
  | cs => String.ofList (kept cs)

/-- The set of a category or of some categories. -/
def categorySet? (name : String) : Option CharSet :=
  if name = "any" then some .all
  else if name = "ascii" then some (.range 0 0x7f)
  else if name = "assigned" then some (Unicode.Category.setOf [.unassigned]).compl
  else (Unicode.Category.ofName? name).map Unicode.Category.setOf

/-- The set of a property: one that characters have or not, a category, or a script. -/
def propertySet? (name : List Char) : Option CharSet :=
  let n := plainName name
  ((Unicode.Property.ofName? n).or (categorySet? n)).or (Unicode.Script.ofName? n)

/-- The set of the characters with a value of a property. -/
def valueSet? (property value : List Char) : Option CharSet :=
  let v := plainName value
  match plainName property with
  | "generalcategory" | "gc" => categorySet? v
  | "script" | "sc" => Unicode.Script.ofName? v
  | "scriptextensions" | "scx" => Unicode.Script.extendedOfName? v
  | "age" => Unicode.Age.ofName? v
  | "graphemeclusterbreak" | "gcb" => Unicode.Cluster.ofName? v
  | "wordbreak" | "wb" => Unicode.Word.ofName? v
  | "sentencebreak" | "sb" => Unicode.Sentence.ofName? v
  | _ => none

/-- The parts of a text around the first occurrence of a mark. -/
def splitAround? (mark : List Char) : List Char → Option (List Char × List Char)
  | [] => none
  | c :: cs =>
    if mark.isPrefixOf (c :: cs) then some ([], (c :: cs).drop mark.length)
    else (splitAround? mark cs).map fun (before, rest) => (c :: before, rest)

/-- The set that the text between braces names: a property, or a property with a value.  Three
marks may stand between a property and its value, and all mean the same. -/
def namedProperty? (cs : List Char) : Option CharSet :=
  let parts :=
    ((splitAround? ['!', '='] cs).or (splitAround? [':'] cs)).or (splitAround? ['='] cs)
  match parts with
  | some (property, value) => valueSet? property value
  | none => propertySet? cs

end SparqlStream.Regex
