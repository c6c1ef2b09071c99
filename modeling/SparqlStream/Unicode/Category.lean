import SparqlStream.Unicode.CategoryTable
import SparqlStream.Unicode.CharSet

/-!
# Categories

The categories of code points, their names, and the characters of categories.
-/

namespace SparqlStream.Unicode

/-- The categories of code points. -/
inductive Category where
  | upperLetter
  | lowerLetter
  | titleLetter
  | modifierLetter
  | otherLetter
  | nonspacingMark
  | spacingMark
  | enclosingMark
  | decimalNumber
  | letterNumber
  | otherNumber
  | connectorPunctuation
  | dashPunctuation
  | openPunctuation
  | closePunctuation
  | initialPunctuation
  | finalPunctuation
  | otherPunctuation
  | mathSymbol
  | currencySymbol
  | modifierSymbol
  | otherSymbol
  | spaceSeparator
  | lineSeparator
  | paragraphSeparator
  | control
  | format
  | privateUse
  | surrogate
  | unassigned
  deriving DecidableEq, Repr

namespace Category

/-- The categories with their letters in the table and their names, in lower case. -/
def entries : List (Char × Category × List String) :=
  [('A', upperLetter, ["lu", "uppercaseletter"]), ('B', lowerLetter, ["ll", "lowercaseletter"]),
    ('C', titleLetter, ["lt", "titlecaseletter"]), ('D', modifierLetter, ["lm", "modifierletter"]),
    ('E', otherLetter, ["lo", "otherletter"]), ('F', nonspacingMark, ["mn", "nonspacingmark"]),
    ('G', spacingMark, ["mc", "spacingmark"]), ('H', enclosingMark, ["me", "enclosingmark"]),
    ('I', decimalNumber, ["nd", "decimalnumber", "digit"]),
    ('J', letterNumber, ["nl", "letternumber"]), ('K', otherNumber, ["no", "othernumber"]),
    ('L', connectorPunctuation, ["pc", "connectorpunctuation"]),
    ('M', dashPunctuation, ["pd", "dashpunctuation"]),
    ('N', openPunctuation, ["ps", "openpunctuation"]),
    ('O', closePunctuation, ["pe", "closepunctuation"]),
    ('P', initialPunctuation, ["pi", "initialpunctuation"]),
    ('Q', finalPunctuation, ["pf", "finalpunctuation"]),
    ('R', otherPunctuation, ["po", "otherpunctuation"]), ('S', mathSymbol, ["sm", "mathsymbol"]),
    ('T', currencySymbol, ["sc", "currencysymbol"]),
    ('U', modifierSymbol, ["sk", "modifiersymbol"]), ('V', otherSymbol, ["so", "othersymbol"]),
    ('W', spaceSeparator, ["zs", "spaceseparator"]), ('X', lineSeparator, ["zl", "lineseparator"]),
    ('Y', paragraphSeparator, ["zp", "paragraphseparator"]),
    ('Z', control, ["cc", "control", "cntrl"]), ('a', format, ["cf", "format"]),
    ('b', privateUse, ["co", "privateuse"]), ('c', surrogate, []),
    ('d', unassigned, ["cn", "unassigned"])]

/-- The categories of letters that have a case. -/
def cased : List Category := [upperLetter, lowerLetter, titleLetter]

/-- The letters. -/
def letters : List Category := cased ++ [modifierLetter, otherLetter]

/-- The groups of categories with their names, in lower case. -/
def groups : List (List String × List Category) :=
  [(["lc", "casedletter"], cased), (["l", "letter"], letters),
    (["m", "mark", "combiningmark"], [nonspacingMark, spacingMark, enclosingMark]),
    (["n", "number"], [decimalNumber, letterNumber, otherNumber]),
    (["p", "punctuation", "punct"],
      [connectorPunctuation, dashPunctuation, openPunctuation, closePunctuation,
        initialPunctuation, finalPunctuation, otherPunctuation]),
    (["s", "symbol"], [mathSymbol, currencySymbol, modifierSymbol, otherSymbol]),
    (["z", "separator"], [spaceSeparator, lineSeparator, paragraphSeparator]),
    (["c", "other"], [control, format, privateUse, surrogate, unassigned])]

/-- The categories that a name stands for. -/
def ofName? (name : String) : Option (List Category) :=
  match entries.find? fun e => e.2.2.contains name with
  | some e => some [e.2.1]
  | none => groups.findSome? fun g => if g.1.contains name then some g.2 else none

/-- The category with a letter in the table. -/
def ofLetter (c : Char) : Category := ((entries.lookup c).map (·.1)).getD unassigned

/-- Runs of categories from their text. -/
def readRuns : List Char → Option (Category × Nat) → List (Category × Nat)
  | [], last => last.toList
  | c :: rest, last =>
    if c.isDigit then
      readRuns rest (last.map fun (k, n) => (k, 10 * n + (c.toNat - '0'.toNat)))
    else last.toList ++ readRuns rest (some (ofLetter c, 0))

/-- The runs of categories.  A run without a length is of length one. -/
def runs : List (Category × Nat) :=
  (readRuns categoryText.toList none).map fun (k, n) => (k, if n = 0 then 1 else n)

/-- The ranges of the runs, from a code point on, whose categories satisfy a condition. -/
def rangesFrom (ok : Category → Bool) (next : Nat) : List (Category × Nat) → List (Nat × Nat)
  | [] => []
  | (k, length) :: rest =>
    let others := rangesFrom ok (next + length) rest
    if ok k then (next, next + length - 1) :: others else others

/-- The characters of some categories. -/
def setOf (categories : List Category) : CharSet :=
  .ofSorted (rangesFrom categories.contains 0 runs)

end Category

end SparqlStream.Unicode
