import SparqlStream.Iri.Reference
import SparqlStream.Syntax.JsonTree

/-!
# Contexts

A context says what the keys and texts of an object stand for: terms that are names of IRIs, a
vocabulary for other keys, a base for other texts, and a language.  An object may extend the
context that it stands in.

A term may be defined by other terms of the same object, in any order but not in a circle.  A
context that is not well formed spoils the document, and so does one that has to be loaded from
elsewhere.
-/

namespace SparqlStream

namespace Linked

/-! ## Keywords -/

/-- The keywords. -/
def keywords : List String :=
  ["@base", "@container", "@context", "@direction", "@graph", "@id", "@import", "@included",
    "@index", "@json", "@language", "@list", "@nest", "@none", "@prefix", "@propagate",
    "@protected", "@reverse", "@set", "@type", "@value", "@version", "@vocab"]

/-- Whether a text is a keyword. -/
def isKeyword (s : String) : Bool := keywords.contains s

/-- Whether a text could be a keyword, now or later. -/
def looksLikeKeyword (s : String) : Bool :=
  match s.toList with
  | '@' :: letters => !letters.isEmpty && letters.all Char.isAlpha
  | _ => false

/-- The two parts of a text around its first colon. -/
def splitColon? (s : String) : Option (String × String) :=
  let cs := s.toList
  match cs.dropWhile (· ≠ ':') with
  | _ :: rest => some (String.ofList (cs.takeWhile (· ≠ ':')), String.ofList rest)
  | [] => none

/-- Whether a text can stand for a node without being resolved. -/
def isAbsolute (s : String) : Bool := (splitColon? s).isSome

/-! ## Terms -/

/-- What the values of a term are collected in. -/
inductive Container where
  | list
  | set
  | index
  | language
  deriving DecidableEq, Repr

/-- The container with a name. -/
def Container.ofName? (name : String) : Option Container :=
  [("@list", list), ("@set", set), ("@index", index), ("@language", language)].lookup name

/-- What a term stands for: an IRI or a keyword, or nothing.  A term may also say what the values of
its key are; a language that is missing twice leaves the language of the context out. -/
structure TermMeaning where
  iri : Option String
  isReverse : Bool
  type : Option String
  language : Option (Option String)
  container : Option Container
  deriving DecidableEq, Repr

/-- A context. -/
structure Context where
  base : Option Iri
  vocabulary : Option String
  language : Option String
  terms : List (String × TermMeaning)
  deriving DecidableEq, Repr

namespace Context

/-- The context of a whole document. -/
def empty : Context := ⟨none, none, none, []⟩

/-- What a text stands for: as a key or a type if it may be a term, and otherwise as the name of a
node.  Nothing is said of a term without meaning. -/
def expand? (c : Context) (isTerm isNode : Bool) (s : String) : Option String :=
  if isKeyword s then some s
  else if looksLikeKeyword s then none
  else
    match if isTerm then c.terms.lookup s else none with
    | some meaning => meaning.iri
    | none =>
      match splitColon? s with
      | some (space, rest) =>
        let prefixed := (c.terms.lookup space).bind (·.iri)
        if space = "_" || rest.startsWith "//" then some s
        else some (prefixed.elim s (· ++ rest))
      | none =>
        match if isTerm then c.vocabulary else none with
        | some v => some (v ++ s)
        | none =>
          match if isNode then c.base else none with
          | some b => some (((Iri.resolve? (some b) s).map (·.text)).getD s)
          | none => some s

end Context

/-! ## Definitions -/

/-- What defining terms knows: the context so far, the terms that have been begun, and whether they
have been completed. -/
structure Defining where
  context : Context
  begun : List (String × Bool)

/-- Defines terms, or fails. -/
abbrev Define := StateT Defining Option

/-- A value that has to be a text. -/
def text? : JsonTree → Option String
  | .scalar (.string s) => some s
  | _ => none

/-- A value that has to be a text or nothing. -/
def textOrNull? : JsonTree → Option (Option String)
  | .null => some none
  | t => some <$> text? t

/-- The keys that a definition may have. -/
def definitionKeys : List String := ["@id", "@reverse", "@type", "@language", "@container"]

/-- The members of a definition, which may be a text for its IRI; nothing stands for no IRI. -/
def definitionOf? : JsonTree → Option (List (String × JsonTree))
  | .null => some [("@id", .null)]
  | .scalar (.string s) => some [("@id", .scalar (.string s))]
  | .object members => if members.all (definitionKeys.contains ·.1) then some members else none
  | _ => none

/-- The container that a definition names. -/
def container? (members : List (String × JsonTree)) : Option (Option Container) :=
  match members.lookup "@container" with
  | none => some none
  | some .null => if (members.lookup "@reverse").isSome then some none else none
  | some t => do some <$> Container.ofName? (← text? t)

mutual

/-- Defines the terms that a text uses, and says what the text stands for. -/
def expandDefining (locals : List (String × JsonTree)) : (limit : Nat) → String → Define String
  | 0, _ => failure
  | limit + 1, s => do
    unless isKeyword s do
      if (locals.lookup s).isSome then define locals limit s
      else
        match splitColon? s with
        | some (space, rest) =>
          if space ≠ "_" && !rest.startsWith "//" && (locals.lookup space).isSome then
            define locals limit space
        | none => pure ()
    match (← get).context.expand? true false s with
    | some expanded => return expanded
    | none => failure

/-- Defines a term of an object, unless that has been done. -/
def define (locals : List (String × JsonTree)) : (limit : Nat) → String → Define Unit
  | 0, _ => failure
  | limit + 1, term => do
    match (← get).begun.lookup term with
    | some true => return
    | some false => failure
    | none => pure ()
    if isKeyword term || term.isEmpty then failure
    if looksLikeKeyword term then return
    modify fun d =>
      { context := { d.context with terms := d.context.terms.filter (·.1 ≠ term) }
        begun := (term, false) :: d.begun }
    let members ← StateT.lift ((locals.lookup term).bind definitionOf?)
    let container ← StateT.lift (container? members)
    let type ←
      match members.lookup "@type" with
      | none => pure none
      | some t => do
        let i ← expandDefining locals limit (← StateT.lift (text? t))
        if i = "@id" || i = "@vocab" || (isAbsolute i && !isKeyword i) then pure (some i)
        else failure
    let language ←
      match members.lookup "@language", type with
      | some t, none => do some <$> StateT.lift (textOrNull? t)
      | _, _ => pure none
    let meaning : TermMeaning ←
      match members.lookup "@reverse", members.lookup "@id" with
      | some _, some _ => failure
      | some t, none => do
        let i ← expandDefining locals limit (← StateT.lift (text? t))
        if isAbsolute i && container ≠ some .list && container ≠ some .language then
          pure ⟨some i, true, type, none, container⟩
        else failure
      | none, some .null => pure ⟨none, false, none, none, none⟩
      | none, id => do
        let own : Define String := do
          let c := (← get).context
          match splitColon? term, c.vocabulary with
          | some (space, rest), _ =>
            if (locals.lookup space).isSome then define locals limit space
            match ((← get).context.terms.lookup space).bind (·.iri) with
            | some i => return i ++ rest
            | none => return term
          | none, some v => return v ++ term
          | none, none => failure
        let i ←
          match id with
          | none => own
          | some t => do
            let s ← StateT.lift (text? t)
            if s = term then own
            else do
              let i ← expandDefining locals limit s
              if (isKeyword i && i ≠ "@context") || isAbsolute i then pure i else failure
        pure ⟨some i, false, type, language, container⟩
    modify fun d =>
      { context := { d.context with terms := (term, meaning) :: d.context.terms }
        begun := (term, true) :: d.begun }

end

/-! ## Extending contexts -/

namespace Context

/-- The keys of a context that are no terms. -/
def settings : List String := ["@base", "@vocab", "@language"]

/-- A context with another base. -/
def withBase? (c : Context) : JsonTree → Option Context
  | .null => some { c with base := none }
  | t => do
    let i ← Iri.resolve? c.base (← text? t)
    return { c with base := some i }

/-- A context with another vocabulary. -/
def withVocabulary? (c : Context) (t : JsonTree) : Option Context := do
  let v ← textOrNull? t
  if v.all isAbsolute then some { c with vocabulary := v } else none

/-- A context with another language. -/
def withLanguage? (c : Context) (t : JsonTree) : Option Context := do
  return { c with language := ← textOrNull? t }

/-- A context with what some members set. -/
def withSettings? (c : Context) (members : List (String × JsonTree)) : Option Context := do
  let set (key : String) (change : Context → JsonTree → Option Context) (c : Context) :=
    ((members.lookup key).map (change c)).getD (some c)
  set "@language" withLanguage? (← set "@vocab" withVocabulary? (← set "@base" withBase? c))

/-- A context extended by an object. -/
def withMembers? (c : Context) (members : List (String × JsonTree)) : Option Context := do
  let c ← c.withSettings? members
  let locals := members.filter (!settings.contains ·.1)
  let limit := 2 * locals.length + 2
  let ((), d) ← (locals.forM fun m => define locals limit m.1).run ⟨c, []⟩
  return d.context

/-- A context extended by a value of `@context`. -/
def extended? (c : Context) : JsonTree → Option Context
  | .null => some empty
  | .object members => c.withMembers? members
  | .array items =>
    items.foldlM (fun c t =>
      match t with
      | .null => some empty
      | .object members => c.withMembers? members
      | _ => none) c
  | .scalar _ => none

end Context

end Linked

end SparqlStream
