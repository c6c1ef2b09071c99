import SparqlStream.Rdf.Checked
import SparqlStream.Results.Basic

/-!
# Reading results

What reading results takes from all syntaxes: names of columns and rows of
terms.  A row that cannot be read is an error in its place among the rows.
-/

namespace SparqlStream

/-- A row by the names of its columns, the last cell first. -/
abbrev NamedRow := List (String × Term)

/-- What a part of a document leads to: nothing yet, something that is complete, or a mistake. -/
inductive ReadProgress (α : Type) where
  | more
  | complete (a : α)
  | wrong

namespace ListedResults

/-- The column with a name that can be the name of a variable. -/
def column? (name : String) : Option Variable :=
  match name.toList with
  | c :: rest =>
    if (Terminal.isNameStart c || c.isDigit || c = ':') && rest.all Terminal.isVariableChar then
      some ⟨name⟩
    else none
  | [] => none

/-- The columns with one more column, which has to be a new one. -/
def addColumn? (columns : List Variable) (name : String) : Option (List Variable) := do
  let v ← column? name
  if columns.contains v then none else some (columns ++ [v])

/-- The solution of a row. -/
def solution (columns : List Variable) (row : NamedRow) : Solution :=
  ⟨columns.map fun v => (v, row.lookup v.name)⟩

/-- The results of columns and rows, of which some cannot be read. -/
def ofRows (columns : List Variable) (rows : List (Option NamedRow)) : ListedResults :=
  let cell : Option NamedRow → Cell Solution ResultsError
    | some row => .item (solution columns row)
    | none => .fail .unreadable
  .solutions columns ⟨rows.map cell⟩

/-- The results that are a boolean. -/
def ofBoolean (b : Bool) : ListedResults := .boolean ⟨[.item b]⟩

end ListedResults

end SparqlStream
