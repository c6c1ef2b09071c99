import SparqlStream.Rdf.Linked.Context

/-!
# Expanded documents

What a document says once its contexts have been applied: nodes with types and properties, values,
and lists.  Keys that stand for nothing are left out, and so are values at places that do not belong
to a node.
-/

namespace SparqlStream

namespace Linked

/-- What a document consists of.  A node may be described by what other nodes say of it, and may be
the name of a graph. -/
inductive Item where
  | value (v : JsonScalar) (type language : Option String)
  | list (items : List Item)
  | node (id : Option String) (types : List String) (properties reverse : List (String × List Item))
    (graph : List Item)

namespace Item

/-- The node with a name alone. -/
def reference (id : String) : Item := .node (some id) [] [] [] []

def isNode : Item → Bool
  | .node .. => true
  | _ => false

def isList : Item → Bool
  | .list _ => true
  | _ => false

end Item

/-- The item of a value without parts of a key. -/
def Context.scalar (c : Context) (key : String) (v : JsonScalar) : Item :=
  let meaning := c.terms.lookup key
  match meaning.bind (·.type), v with
  | some "@id", .string s => .reference ((c.expand? false true s).getD s)
  | some "@vocab", .string s => .reference ((c.expand? true true s).getD s)
  | some "@id", v | some "@vocab", v | some "@none", v => .value v none none
  | some type, v => .value v (some type) none
  | none, .string s => .value (.string s) none ((meaning.bind (·.language)).getD c.language)
  | none, v => .value v none none

/-! ## Objects -/

/-- The types that an object names, one by itself or some in a list. -/
inductive Types where
  | one (type : String)
  | some (types : List String)

def Types.toList : Types → List String
  | one type => [type]
  | some types => types

/-- What has been read of an object, other than its index. -/
structure Draft where
  id : Option String
  types : Option Types
  value : Option (Option JsonScalar)
  language : Option String
  list : Option (List Item)
  set : Option (List Item)
  properties : List (String × List Item)
  reverse : List (String × List Item)
  graph : Option (List Item)

namespace Draft

/-- Nothing has been read. -/
def empty : Draft := ⟨none, none, none, none, none, none, [], [], none⟩

/-- Whether something of a node has been read that is more than its name. -/
def isDescribed (d : Draft) : Bool :=
  d.types.isSome || !d.properties.isEmpty || !d.reverse.isEmpty || d.graph.isSome

/-- A value that has to be the first one. -/
def once {α : Type} (before : Option α) (a : α) : Option (Option α) :=
  if before.isSome then none else some (some a)

/-- Reads values of a property, or of a property that leads to the node.  The latter have to be
nodes. -/
def add (d : Draft) (isReverse : Bool) (property : String) (items : List Item) : Option Draft :=
  if isReverse then
    if items.all Item.isNode then some { d with reverse := d.reverse ++ [(property, items)] }
    else none
  else some { d with properties := d.properties ++ [(property, items)] }

/-- The item of an object that is a value. -/
def toValue (d : Draft) (v : Option JsonScalar) : Option (List Item) := do
  let type ←
    match d.types with
    | none => some none
    | some (.one type) =>
      if isAbsolute type && !type.startsWith "_:" then some (some type) else none
    | some (.some _) => none
  let isPure := d.id.isNone && d.list.isNone && d.set.isNone && d.properties.isEmpty
    && d.reverse.isEmpty && d.graph.isNone && (type.isNone || d.language.isNone)
  let suits :=
    match v with
    | none | some (.string _) => true
    | some _ => d.language.isNone
  if isPure && suits then some (v.map (.value · type d.language)).toList else none

/-- The items of an object at a place, which may be one of a property. -/
def items (d : Draft) (isOfProperty : Bool) : Option (List Item) :=
  match d.value, d.list, d.set with
  | some v, _, _ => (d.toValue v).map fun items => if isOfProperty then items else []
  | none, none, none =>
    if d.language.isSome && d.id.isNone && !d.isDescribed then some []
    else if !isOfProperty && !d.isDescribed then some []
    else
      let types := (d.types.map Types.toList).getD []
      some [.node d.id types d.properties d.reverse (d.graph.getD [])]
  | none, list, set =>
    if d.id.isSome || d.isDescribed || d.language.isSome || (list.isSome && set.isSome) then none
    else
      match list with
      | some items => some (if isOfProperty then [.list items] else [])
      | none => set

end Draft

/-! ## Expansion -/

/-- The values of a value that may be a list of them. -/
def valuesOf : JsonTree → List JsonTree
  | .array items => items
  | t => [t]

/-- The members of a value that has to be an object. -/
def membersOf? : JsonTree → Option (List (String × JsonTree))
  | .object members => some members
  | _ => none

/-- What a value of `@type` names. -/
def types? (c : Context) (t : JsonTree) : Option Types :=
  let type? (t : JsonTree) : Option String := do
    let s ← text? t
    return (c.expand? true true s).getD s
  match t with
  | .array items => .some <$> items.mapM type?
  | t => .one <$> type? t

/-- The items of a key that has texts by their languages. -/
def localized? (members : List (String × JsonTree)) : Option (List Item) := do
  let ofLanguage (m : String × JsonTree) : Option (List Item) :=
    (valuesOf m.2).foldlM (fun items t =>
      match t with
      | .null => some items
      | t => do return items ++ [.value (.string (← text? t)) none (some m.1)]) []
  return (← members.mapM ofLanguage).flatten

mutual

/-- The items of a value at a place, which is given by the key of the property there, if there is
one. -/
def expand : (limit : Nat) → Context → Option String → JsonTree → Option (List Item)
  | 0, _, _, _ => none
  | _ + 1, _, _, .null => some []
  | _ + 1, c, place, .scalar v => some (place.map (c.scalar · v)).toList
  | limit + 1, c, place, .array items => do
    return (← items.mapM fun t => expand limit c place t).flatten
  | limit + 1, c, place, .object members => do
    let c ←
      match members.lookup "@context" with
      | some t => c.extended? t
      | none => some c
    let members := members.filter (·.1 ≠ "@context")
    let d ← members.foldlM (fun d m => member limit c place d m) Draft.empty
    d.items place.isSome

/-- The items of a list, of which none is a list. -/
def expandList : (limit : Nat) → Context → Option String → JsonTree → Option (List Item)
  | 0, _, _, _ => none
  | limit + 1, c, place, t => do
    let isArray : JsonTree → Bool
      | .array _ => true
      | _ => false
    if (valuesOf t).any fun t => isArray t then none
    let items ← expand limit c place t
    if items.any Item.isList then none else some items

/-- Reads a member of an object. -/
def member : (limit : Nat) → Context → Option String → Draft → String × JsonTree → Option Draft
  | 0, _, _, _, _ => none
  | limit + 1, c, place, d, (key, t) =>
    match c.expand? true false key with
    | none => some d
    | some "@id" => do
      let s ← text? t
      return { d with id := ← Draft.once d.id ((c.expand? false true s).getD s) }
    | some "@type" => do return { d with types := ← Draft.once d.types (← types? c t) }
    | some "@graph" => do
      return { d with graph := ← Draft.once d.graph (← expand limit c none t) }
    | some "@value" => do
      let v ←
        match t with
        | .null => some none
        | .scalar v => some (some v)
        | _ => none
      return { d with value := ← Draft.once d.value v }
    | some "@language" => do return { d with language := ← Draft.once d.language (← text? t) }
    | some "@index" => do
      let _ ← text? t
      return d
    | some "@list" => do
      if place.isNone then return d
      return { d with list := ← Draft.once d.list (← expandList limit c place t) }
    | some "@set" => do return { d with set := ← Draft.once d.set (← expand limit c place t) }
    | some "@reverse" => do
      let inner ← (← membersOf? t).foldlM (fun d m => member limit c (some "@reverse") d m) .empty
      let isPure := inner.id.isNone && inner.types.isNone && inner.value.isNone
        && inner.language.isNone && inner.list.isNone && inner.set.isNone && inner.graph.isNone
      if !isPure then none
      let d := { d with properties := d.properties ++ inner.reverse }
      inner.properties.foldlM (fun d p => d.add true p.1 p.2) d
    | some i => do
      if isKeyword i then none
      if !isAbsolute i then return d
      let items ← property limit c key t
      if items.isEmpty && t matches .null then return d
      d.add ((c.terms.lookup key).any (·.isReverse)) i items

/-- The items of the value of a property. -/
def property : (limit : Nat) → Context → String → JsonTree → Option (List Item)
  | 0, _, _, _ => none
  | limit + 1, c, key, t =>
    match (c.terms.lookup key).bind (·.container), t with
    | some .language, .object members => localized? members
    | some .index, .object members => do
      return (← members.mapM fun m => expand limit c (some key) m.2).flatten
    | some .list, .array _ => do return [.list (← expandList limit c (some key) t)]
    | some .list, t => do
      let items ← expand limit c (some key) t
      return if items.isEmpty || items.any Item.isList then items else [.list items]
    | _, t => expand limit c (some key) t

end

end Linked

end SparqlStream
