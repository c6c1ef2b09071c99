/-!
# Language tags

Which texts are well-formed language tags.  A tag is a list of subtags with hyphens between: a
language, extended languages, a script, a region, variants, extensions that begin with a single
character, and a private part that begins with `x`.  A tag may also be private as a whole, or one of
a list of tags from before there were rules.
-/

namespace SparqlStream

namespace LanguageTag

/-- The tags from before there were rules, in lower case. -/
def irregular : List String :=
  ["art-lojban", "cel-gaulish", "en-gb-oed", "i-ami", "i-bnn", "i-default", "i-enochian", "i-hak",
    "i-klingon", "i-lux", "i-mingo", "i-navajo", "i-pwn", "i-tao", "i-tay", "i-tsu", "no-bok",
    "no-nyn", "sgn-be-fr", "sgn-be-nl", "sgn-ch-de", "zh-guoyu", "zh-hakka", "zh-min",
    "zh-min-nan", "zh-xiang"]

/-- Which parts of a tag have been read.  An extension or a private part needs at least one subtag
behind the character that begins it. -/
inductive Position where
  | language (extended : Nat)
  | extendedLanguage
  | script
  | region
  | extension (isEmpty : Bool)
  | privateUse (isEmpty : Bool)
  deriving DecidableEq, Repr

/-- Whether a script may come next. -/
def Position.beforeScript : Position → Bool
  | language _ | extendedLanguage => true
  | _ => false

/-- Whether a region may come next. -/
def Position.beforeRegion : Position → Bool
  | language _ | extendedLanguage | script => true
  | _ => false

/-- Whether a variant may come next. -/
def Position.beforeVariant : Position → Bool
  | extension _ | privateUse _ => false
  | _ => true

/-- Whether the tag may end, or another extension may begin. -/
def Position.isComplete : Position → Bool
  | extension isEmpty | privateUse isEmpty => !isEmpty
  | _ => true

/-- Whether subtags behind the language are in order. -/
def follows (p : Position) : List (List Char) → Bool
  | [] => p.isComplete
  | s :: rest =>
    let letters := s.all Char.isAlpha
    let digits := s.all Char.isDigit
    let first (ok : Char → Bool) : Bool := s.head?.any ok
    if s.isEmpty || 8 < s.length || !s.all Char.isAlphanum then false
    else
      match p with
      | .privateUse _ => follows (.privateUse false) rest
      | _ =>
        if s.length = 1 then
          p.isComplete
            && follows (if s = ['x'] || s = ['X'] then .privateUse true else .extension true) rest
        else
          match p with
          | .extension _ => follows (.extension false) rest
          | _ =>
            let extended? : Option Nat :=
              match p with
              | .language n => if s.length = 3 && letters then some n else none
              | _ => none
            match extended? with
            | some n => n < 3 && follows (.language (n + 1)) rest
            | none =>
              if p.beforeScript && s.length = 4 && letters then follows .script rest
              else if p.beforeRegion && ((s.length = 2 && letters) || (s.length = 3 && digits)) then
                follows .region rest
              else if p.beforeVariant && ((5 ≤ s.length && first Char.isAlpha)
                  || (4 ≤ s.length && first Char.isDigit)) then
                follows .region rest
              else false

/-- Whether a text is a language tag. -/
def isValid (cs : List Char) : Bool :=
  let lower := cs.map Char.toLower
  if irregular.contains (String.ofList lower) then true
  else
    match lower with
    | 'x' :: '-' :: rest => follows (.privateUse true) (rest.splitOn '-')
    | _ =>
      match cs.splitOn '-' with
      | [] => false
      | language :: rest =>
        2 ≤ language.length && language.length ≤ 8 && language.all Char.isAlpha
          && follows (if language.length < 4 then .language 0 else .extendedLanguage) rest

end LanguageTag

end SparqlStream
