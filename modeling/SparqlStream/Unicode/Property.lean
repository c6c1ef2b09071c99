import SparqlStream.Unicode.CaseRun
import SparqlStream.Unicode.Category
import SparqlStream.Unicode.PropertyTable

/-!
# Properties of characters

The properties that a character has or not.  Some are listed in a table; the others are made of
those, of categories and of changes of case.
-/

namespace SparqlStream.Unicode

namespace Property

open Category (setOf)

/-- The characters with a property that the table lists. -/
def listed? (name : String) : Option CharSet :=
  (propertyTexts.find? fun p => p.1.contains name).map fun p => .ofText p.2

/-- The characters with a property that the table lists under a name. -/
def listed (name : String) : CharSet := (listed? name).getD .nothing

/-! ## Letters -/

def alphabetic : CharSet :=
  setOf (.letterNumber :: Category.letters) ∪ listed "otheralphabetic"

def lowercase : CharSet := setOf [.lowerLetter] ∪ listed "otherlowercase"

def uppercase : CharSet := setOf [.upperLetter] ∪ listed "otheruppercase"

def cased : CharSet := lowercase ∪ uppercase ∪ setOf [.titleLetter]

/-- The characters that are passed over when the letters of a word are looked at. -/
def caseIgnorable : CharSet :=
  setOf [.nonspacingMark, .enclosingMark, .format, .modifierLetter, .modifierSymbol]
    ∪ .ofText "27 2E 3A B7 387 55F 5F4 2018-2019 2024 2027 FE13 FE52 FE55 FF07 FF0E FF1A"

/-! ## Changes of case -/

def changesWhenLowercased : CharSet := movedSet lowerRuns

def changesWhenUppercased : CharSet :=
  movedSet upperRuns ∪ .ofRanges (upperExpansions.map fun e => (e.1, e.1))

def changesWhenTitlecased : CharSet :=
  (changesWhenUppercased
      \ .ofText "1C5 1C8 1CB 1F2 10D0-10FA 10FD-10FF 1F88-1F8F 1F98-1F9F 1FA8-1FAF 1FBC 1FCC 1FFC")
    ∪ .ofText "1C4 1C7 1CA 1F1"

def changesWhenCasemapped : CharSet :=
  changesWhenLowercased ∪ changesWhenUppercased ∪ changesWhenTitlecased

def changesWhenCasefolded : CharSet :=
  (.ofRanges (foldedPairs.map fun p => (p.1, p.1)) \ .ofText "1FBE 1FD3 1FE3")
    ∪ .ofText (String.join
      ["DF 130 149 587 1E9A 1F80-1F87 1F90-1F97 1FA0-1FA7 1FB2-1FB4 1FB7 1FC2-1FC4 1FC7 ",
        "1FF2-1FF4 1FF7 FB00-FB04 FB06 FB13-FB17"])

/-! ## Identifiers -/

/-- The characters that languages reserve. -/
def reserved : CharSet := listed "patternsyntax" ∪ listed "patternwhitespace"

def idStart : CharSet :=
  (setOf (.letterNumber :: Category.letters) ∪ listed "otheridstart") \ reserved

def idContinue : CharSet :=
  (idStart
      ∪ setOf [.nonspacingMark, .spacingMark, .decimalNumber, .connectorPunctuation]
      ∪ listed "otheridcontinue")
    \ reserved

/-- The characters that can continue an identifier, but not all of what they are equivalent to. -/
def unstable : CharSet :=
  .ofText "37A 309B-309C FC5E-FC63 FDFA-FDFB FE70 FE72 FE74 FE76 FE78 FE7A FE7C FE7E"

def xidContinue : CharSet := idContinue \ unstable

def xidStart : CharSet := idStart \ (unstable ∪ .ofText "E33 EB3 FF9E-FF9F")

/-! ## Clusters and symbols -/

def graphemeExtend : CharSet :=
  setOf [.nonspacingMark, .enclosingMark] ∪ listed "othergraphemeextend"

def graphemeBase : CharSet :=
  (setOf [.control, .format, .surrogate, .privateUse, .unassigned, .lineSeparator,
      .paragraphSeparator] ∪ graphemeExtend).compl

def math : CharSet := setOf [.mathSymbol] ∪ listed "othermath"

def whiteSpace : CharSet := listed "whitespace"

/-! ## Names -/

/-- The properties that are made of others, with their names in lower case. -/
def composed : List (List String × CharSet) :=
  [(["alphabetic", "alpha"], alphabetic), (["lowercase", "lower"], lowercase),
    (["uppercase", "upper"], uppercase), (["cased"], cased),
    (["caseignorable", "ci"], caseIgnorable),
    (["changeswhenlowercased", "cwl"], changesWhenLowercased),
    (["changeswhenuppercased", "cwu"], changesWhenUppercased),
    (["changeswhentitlecased", "cwt"], changesWhenTitlecased),
    (["changeswhencasemapped", "cwcm"], changesWhenCasemapped),
    (["changeswhencasefolded", "cwcf"], changesWhenCasefolded), (["idstart", "ids"], idStart),
    (["idcontinue", "idc"], idContinue), (["xidstart", "xids"], xidStart),
    (["xidcontinue", "xidc"], xidContinue), (["graphemeextend", "grext"], graphemeExtend),
    (["graphemebase", "grbase"], graphemeBase), (["math"], math)]

/-- The characters with a property that has a name. -/
def ofName? (name : String) : Option CharSet :=
  ((composed.find? fun p => p.1.contains name).map (·.2)).or (listed? name)

end Property

/-! ## White space -/

/-- Whether a character is white space in any script. -/
def isSpace (c : Char) : Bool := Property.whiteSpace.contains c

/-- A text without white space at its ends. -/
def trimmed (cs : List Char) : List Char :=
  ((cs.dropWhile isSpace).reverse.dropWhile isSpace).reverse

/-! ## Words -/

/-- The characters that words are made of. -/
def word : CharSet :=
  Property.alphabetic
    ∪ Category.setOf [.nonspacingMark, .spacingMark, .enclosingMark, .decimalNumber,
      .connectorPunctuation]
    ∪ Property.listed "joincontrol"

/-- The digits of decimal numbers. -/
def digit : CharSet := Category.setOf [.decimalNumber]

/-- The letters and the characters of numbers. -/
def alphanumeric : CharSet :=
  Property.alphabetic ∪ Category.setOf [.decimalNumber, .letterNumber, .otherNumber]

end SparqlStream.Unicode
