import SparqlStream.Results.Table.Basic
import SparqlStream.Syntax.JsonPrinter

/-!
# Tables as JSON

A table is an object with a head, which lists the columns, and the results, which list an object
for each solution.  Nothing is written for an unbound variable, and there is no white space.
-/

namespace SparqlStream

namespace Json

open JsonText (ofString ofItems ofMembers)

/-- The object of a term. -/
def term : Term → String
  | .iri i => ofMembers [("type", ofString "uri"), ("value", ofString i.text)]
  | .blank b => ofMembers [("type", ofString "bnode"), ("value", ofString b.label)]
  | .literal l =>
    let common := [("type", ofString "literal"), ("value", ofString l.value)]
    match l with
    | .simple _ => ofMembers common
    | .tagged _ language => ofMembers (common ++ [("xml:lang", ofString language)])
    | .typed _ datatype => ofMembers (common ++ [("datatype", ofString datatype.text)])

/-- The object of a solution. -/
def solution (s : Solution) : String := ofMembers (s.bound.map fun (v, t) => (v.name, term t))

/-- Tables and booleans as JSON. -/
def format : TableFormat where
  opening columns :=
    "\x7b\"head\":" ++ ofMembers [("vars", ofItems (columns.map fun v => ofString v.name))]
      ++ ",\"results\":\x7b\"bindings\":["
  row _ isFirst s := (if isFirst then "" else ",") ++ solution s
  closing := "]\x7d\x7d"
  boolean b := ofMembers [("head", ofMembers []), ("boolean", boolText b)]

end Json

end SparqlStream
