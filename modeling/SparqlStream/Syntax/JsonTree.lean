import SparqlStream.Syntax.Json

/-!
# JSON as trees

A text as one value.  A text with a mistake is none.
-/

namespace SparqlStream

/-- A value without parts, other than the one that stands for nothing. -/
inductive JsonScalar where
  | string (s : String)
  | number (written : String)
  | boolean (b : Bool)
  deriving DecidableEq, Repr

/-- A value.  Each key of an object has one value. -/
inductive JsonTree where
  | null
  | scalar (s : JsonScalar)
  | array (items : List JsonTree)
  | object (members : List (String × JsonTree))

namespace JsonTree

/-- An array or object that is being read: what has been read, the last part first, and the key of
the next member. -/
inductive Open where
  | array (before : List JsonTree)
  | object (before : List (String × JsonTree)) (key : String)

/-- What has been read: the arrays and objects that are open, the innermost first, and the value
outside of all of them. -/
structure Progress where
  outer : List Open
  value : Option JsonTree

/-- The members of an object.  Of the values of a key the last one counts. -/
def members (before : List (String × JsonTree)) : List (String × JsonTree) :=
  before.foldl (fun kept m => if (kept.lookup m.1).isSome then kept else m :: kept) []

/-- Reads a value that is complete. -/
def put (t : JsonTree) (p : Progress) : Progress :=
  match p.outer with
  | [] => { p with value := some t }
  | .array before :: outer => { p with outer := .array (t :: before) :: outer }
  | .object before key :: outer => { p with outer := .object ((key, t) :: before) key :: outer }

/-- Reads an event. -/
def read (p : Progress) (e : JsonText.Event) : Progress :=
  match e, p.outer with
  | .startArray, outer => { p with outer := .array [] :: outer }
  | .startObject, outer => { p with outer := .object [] "" :: outer }
  | .endArray, .array before :: outer => put (.array before.reverse) { p with outer := outer }
  | .endObject, .object before _ :: outer =>
    put (.object (members before)) { p with outer := outer }
  | .key k, .object before _ :: outer => { p with outer := .object before k :: outer }
  | .string s, _ => put (.scalar (.string s)) p
  | .number n, _ => put (.scalar (.number n)) p
  | .boolean b, _ => put (.scalar (.boolean b)) p
  | .null, _ => put .null p
  | _, _ => p

/-- The value of a text. -/
def ofText? (text : String) : Option JsonTree := do
  let events ← (JsonText.events text).mapM id
  (events.foldl read ⟨[], none⟩).value

end JsonTree

end SparqlStream
