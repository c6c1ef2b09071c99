import SparqlStream.Rdf.Text

/-!
# Expressions

The expressions of filters and order keys.  The inequality and the negated membership test of the
query language are negations here.  A test for the existence of a pattern is part of the
language, but nothing evaluates it, so it does not keep its pattern.
-/

namespace SparqlStream

/-- The functions that the query language names. -/
inductive Builtin where
  | str | lang | langMatches | datatype | iri | bnode | rand | abs | ceil | floor | round | concat
  | subStr | strLen | replace | uCase | lCase | encodeForUri | contains | strStarts | strEnds
  | strBefore | strAfter | year | month | day | hours | minutes | seconds | timezone | tz | now
  | uuid | strUuid | md5 | sha1 | sha256 | sha384 | sha512 | strLang | strDt | isIri | isBlank
  | isLiteral | isNumeric | regex
  deriving DecidableEq, Repr, Inhabited

namespace Builtin

/-- All functions with their names, as messages show them. -/
def table : List (Builtin × String) :=
  [(str, "STR"), (lang, "LANG"), (langMatches, "LANGMATCHES"), (datatype, "DATATYPE"),
    (iri, "IRI"), (bnode, "BNODE"), (rand, "RAND"), (abs, "ABS"), (ceil, "CEIL"),
    (floor, "FLOOR"), (round, "ROUND"), (concat, "CONCAT"), (subStr, "SUBSTR"),
    (strLen, "STRLEN"), (replace, "REPLACE"), (uCase, "UCASE"), (lCase, "LCASE"),
    (encodeForUri, "ENCODE_FOR_URI"), (contains, "CONTAINS"), (strStarts, "STRSTARTS"),
    (strEnds, "STRENDS"), (strBefore, "STRBEFORE"), (strAfter, "STRAFTER"), (year, "YEAR"),
    (month, "MONTH"), (day, "DAY"), (hours, "HOURS"), (minutes, "MINUTES"), (seconds, "SECONDS"),
    (timezone, "TIMEZONE"), (tz, "TZ"), (now, "NOW"), (uuid, "UUID"), (strUuid, "STRUUID"),
    (md5, "MD5"), (sha1, "SHA1"), (sha256, "SHA256"), (sha384, "SHA384"), (sha512, "SHA512"),
    (strLang, "STRLANG"), (strDt, "STRDT"), (isIri, "isIRI"), (isBlank, "isBLANK"),
    (isLiteral, "isLITERAL"), (isNumeric, "isNUMERIC"), (regex, "REGEX")]

/-- The name of a function. -/
def name (b : Builtin) : String := (table.lookup b).getD ""

/-- The function with a name. -/
def ofName? (name : String) : Option Builtin :=
  (table.find? (·.2 = name)).map (·.1)

end Builtin

/-- A function that an expression can call. -/
inductive Function where
  | builtin (b : Builtin)
  | custom (name : Iri)
  deriving DecidableEq, Repr, Inhabited

/-- A function as messages show it. -/
def Function.render : Function → String
  | builtin b => b.name
  | custom i => i.render

/-- The operators that test an order. -/
inductive Comparison where
  | greater
  | greaterOrEqual
  | less
  | lessOrEqual
  deriving DecidableEq, Repr

/-- Whether an order passes the test. -/
def Comparison.accepts : Comparison → Ordering → Bool
  | greater, o => o == .gt
  | greaterOrEqual, o => o != .lt
  | less, o => o == .lt
  | lessOrEqual, o => o != .gt

/-- The operators on numbers. -/
inductive Arithmetic where
  | add
  | subtract
  | multiply
  | divide
  deriving DecidableEq, Repr

/-- An operator as messages show it. -/
def Arithmetic.name : Arithmetic → String
  | add => "Add"
  | subtract => "Subtract"
  | multiply => "Multiply"
  | divide => "Divide"

/-- An expression. -/
inductive Expression where
  | iri (node : Iri)
  | literal (value : Literal)
  | var (name : Variable)
  | or (left right : Expression)
  | and (left right : Expression)
  | not (inner : Expression)
  | equal (left right : Expression)
  | sameTerm (left right : Expression)
  | compare (c : Comparison) (left right : Expression)
  | oneOf (needle : Expression) (candidates : List Expression)
  | arithmetic (op : Arithmetic) (left right : Expression)
  | plus (inner : Expression)
  | minus (inner : Expression)
  | bound (name : Variable)
  | ifThenElse (condition onTrue onFalse : Expression)
  | coalesce (alternatives : List Expression)
  | call (function : Function) (arguments : List Expression)
  | patternExists
  deriving Repr, Inhabited

/-- A key by which solutions are ordered. -/
structure OrderKey where
  expression : Expression
  descending : Bool
  deriving Repr, Inhabited

end SparqlStream
