import SparqlStream.Rdf.Term

/-!
# IRI references

Takes references apart into scheme, authority, path, query and fragment, says which references are
well formed, and resolves a reference against a base.

Characters beyond ASCII may stand wherever letters may; private characters only in a query.  A
percent sign has to be followed by two hexadecimal digits.
-/

namespace SparqlStream

/-- The parts of a reference, without the marks between them. -/
structure IriReference where
  scheme : Option (List Char)
  authority : Option (List Char)
  path : List Char
  query : Option (List Char)
  fragment : Option (List Char)
  deriving DecidableEq, Repr

namespace IriReference

/-! ## Taking references apart -/

/-- Whether a character may stand in a scheme behind its first letter. -/
def isSchemeChar (c : Char) : Bool := c.isAlphanum || c = '+' || c = '-' || c = '.'

/-- The scheme of a reference and what follows its colon. -/
def splitScheme (cs : List Char) : Option (List Char) × List Char :=
  let scheme := cs.takeWhile isSchemeChar
  match scheme, cs.dropWhile isSchemeChar with
  | first :: _, ':' :: rest => if first.isAlpha then (some scheme, rest) else (none, cs)
  | _, _ => (none, cs)

/-- Whether a character ends an authority. -/
def endsAuthority (c : Char) : Bool := c = '/' || c = '?' || c = '#'

/-- The authority after two slashes and what follows it. -/
def splitAuthority : List Char → Option (List Char) × List Char
  | '/' :: '/' :: rest =>
    (some (rest.takeWhile (!endsAuthority ·)), rest.dropWhile (!endsAuthority ·))
  | cs => (none, cs)

/-- The query after a question mark and what follows it. -/
def splitQuery : List Char → Option (List Char) × List Char
  | '?' :: rest => (some (rest.takeWhile (· ≠ '#')), rest.dropWhile (· ≠ '#'))
  | cs => (none, cs)

/-- The parts of a reference. -/
def ofText (cs : List Char) : IriReference :=
  let (scheme, cs) := splitScheme cs
  let (authority, cs) := splitAuthority cs
  let isPath (c : Char) : Bool := c ≠ '?' && c ≠ '#'
  let path := cs.takeWhile isPath
  let (query, cs) := splitQuery (cs.dropWhile isPath)
  ⟨scheme, authority, path, query, match cs with | '#' :: rest => some rest | _ => none⟩

/-- A reference put together. -/
def text (r : IriReference) : List Char :=
  let after (mark : List Char) (part : Option (List Char)) : List Char :=
    part.elim [] fun p => mark ++ p
  r.scheme.elim [] (· ++ [':']) ++ after ['/', '/'] r.authority ++ r.path ++ after ['?'] r.query
    ++ after ['#'] r.fragment

/-! ## Well-formed references -/

/-- The characters beyond ASCII that may stand in every part. -/
def isForeign (c : Char) : Bool :=
  let n := c.toNat
  (0xA0 ≤ n && n ≤ 0xD7FF) || (0xF900 ≤ n && n ≤ 0xFDCF) || (0xFDF0 ≤ n && n ≤ 0xFFEF)
    || (0x10000 ≤ n && n ≤ 0xEFFFD && n % 0x10000 ≤ 0xFFFD && !(0xE0000 ≤ n && n < 0xE1000))

/-- The private characters. -/
def isPrivate (c : Char) : Bool :=
  let n := c.toNat
  (0xE000 ≤ n && n ≤ 0xF8FF) || (0xF0000 ≤ n && n ≤ 0xFFFFD) || (0x100000 ≤ n && n ≤ 0x10FFFD)

/-- The characters that may stand in every part. -/
def isCommon (c : Char) : Bool := c.isAlphanum || "!$&'()*+,-.;=_~".toList.contains c || isForeign c

def isUserChar (c : Char) : Bool := isCommon c || c = ':'
def isPathChar (c : Char) : Bool := isCommon c || c = ':' || c = '@' || c = '/'
def isFragmentChar (c : Char) : Bool := isPathChar c || c = '?'
def isQueryChar (c : Char) : Bool := isFragmentChar c || isPrivate c

/-- Whether a character is a hexadecimal digit. -/
def isHexDigit (c : Char) : Bool := c.isDigit || ('a' ≤ c && c ≤ 'f') || ('A' ≤ c && c ≤ 'F')

/-- Whether all characters satisfy a condition or are written by their code after a percent sign. -/
def allWritten (ok : Char → Bool) : List Char → Bool
  | [] => true
  | '%' :: a :: b :: rest => isHexDigit a && isHexDigit b && allWritten ok rest
  | c :: rest => ok c && allWritten ok rest

/-- The parts of a text between colons. -/
def betweenColons (cs : List Char) : List (List Char) := cs.splitOn ':'

/-- Whether a text is a number below 256 without needless zeros. -/
def isOctet (cs : List Char) : Bool :=
  match cs with
  | [a] => a.isDigit
  | ['1', b, c] => b.isDigit && c.isDigit
  | ['2', b, c] => (b < '5' && b.isDigit && c.isDigit) || (b = '5' && c ≤ '5' && c.isDigit)
  | [a, b] => a.isDigit && a ≠ '0' && b.isDigit
  | _ => false

/-- Whether a text is an address of four numbers. -/
def isAddress4 (cs : List Char) : Bool :=
  let parts := cs.splitOn '.'
  parts.length = 4 && parts.all isOctet

/-- How many groups of an address a list of parts stands for.  The last part may be an address of
four numbers, which counts twice. -/
def groupCount? : List (List Char) → Option Nat
  | [] => some 0
  | [p] =>
    if isAddress4 p then some 2
    else if p.all isHexDigit && !p.isEmpty && p.length ≤ 4 then some 1 else none
  | p :: rest =>
    if p.all isHexDigit && !p.isEmpty && p.length ≤ 4 then (groupCount? rest).map (· + 1) else none

/-- Whether a text is an address of eight groups, of which some may be left out between two
colons. -/
def isAddress6 (cs : List Char) : Bool :=
  let before (i : Nat) := cs.take i
  let groups (cs : List Char) : Option Nat :=
    if cs.isEmpty then some 0 else groupCount? (betweenColons cs)
  let gap? := (List.range cs.length).find? fun i => (cs.drop i).take 2 = [':', ':']
  match gap? with
  | none => groups cs = some 8
  | some i =>
    let left := betweenColons (before i)
    match groups (before i), groups (cs.drop (i + 2)) with
    | some a, some b => a + b ≤ 7 && !(left.getLast?.any isAddress4)
    | _, _ => false

/-- Whether the text between brackets is an address, or a version and what it says. -/
def isBracketed (cs : List Char) : Bool :=
  match cs with
  | v :: rest =>
    if v = 'v' || v = 'V' then
      let version := rest.takeWhile isHexDigit
      match rest.dropWhile isHexDigit with
      | '.' :: address =>
        !version.isEmpty && !address.isEmpty
          && address.all fun c => isUserChar c && c.toNat < 0x80
      | _ => false
    else isAddress6 cs
  | [] => false

/-- Whether a text is a host, perhaps with a number behind a colon. -/
def isHost (cs : List Char) : Bool :=
  let isNumberPart : List Char → Bool
    | [] => true
    | ':' :: digits => digits.all Char.isDigit
    | _ => false
  match cs with
  | '[' :: rest =>
    match rest.dropWhile (· ≠ ']') with
    | _ :: after => isBracketed (rest.takeWhile (· ≠ ']')) && isNumberPart after
    | [] => false
  | cs => allWritten isCommon (cs.takeWhile (· ≠ ':')) && isNumberPart (cs.dropWhile (· ≠ ':'))

/-- Whether a text is an authority. -/
def isAuthority (cs : List Char) : Bool :=
  match cs.dropWhile (· ≠ '@') with
  | [] => isHost cs
  | _ :: host => allWritten isUserChar (cs.takeWhile (· ≠ '@')) && isHost host

/-- Whether all parts of a reference are well formed. -/
def isValid (r : IriReference) : Bool :=
  r.authority.all isAuthority && allWritten isPathChar r.path
    && r.query.all (allWritten isQueryChar) && r.fragment.all (allWritten isFragmentChar)

/-! ## Resolution -/

/-- The path of what encloses the last segment of a path. -/
def enclosing (path : List Char) : List Char :=
  ((path.reverse.dropWhile (· ≠ '/')).drop 1).reverse

/-- A path with a slash behind it.  Where there is neither an authority nor a path, none is
needed. -/
def opened (hasAuthority : Bool) (path : List Char) : List Char :=
  if hasAuthority || !path.isEmpty then path ++ ['/'] else path

/-- A path that is empty or ends with a slash, followed by some segments.  A segment of one point
stands for the path itself, and one of two points for what encloses it. -/
def followedBy (hasAuthority : Bool) (path : List Char) : List (List Char) → List Char
  | [] => path
  | s :: rest =>
    if s = ['.'] then followedBy hasAuthority path rest
    else if s = ['.', '.'] then
      followedBy hasAuthority (opened hasAuthority (enclosing (enclosing path))) rest
    else if rest.isEmpty then path ++ s
    else followedBy hasAuthority (path ++ s ++ ['/']) rest

/-- The reference that a reference stands for beside a base.  Points in the base stay what they
are, and so do points in a reference that names a scheme or an authority. -/
def resolve (base r : IriReference) : IriReference :=
  let beside (path : List Char) (segments : List Char) : IriReference :=
    { r with
      scheme := base.scheme
      authority := base.authority
      path := followedBy base.authority.isSome path (segments.splitOn '/') }
  match r.scheme, r.authority, r.path with
  | some _, _, _ => r
  | none, some _, _ => { r with scheme := base.scheme }
  | none, none, [] =>
    ⟨base.scheme, base.authority, base.path, r.query.or base.query, r.fragment⟩
  | none, none, '/' :: segments => beside ['/'] segments
  | none, none, segments =>
    beside (opened base.authority.isSome (enclosing base.path)) segments

/-- Whether a reference cannot be mistaken for another kind: without a scheme the first segment of
its path has no colon, and without an authority its path does not begin with two slashes. -/
def isUnmistakable (r : IriReference) : Bool :=
  (r.scheme.isSome || r.authority.isSome || !(r.path.takeWhile (· ≠ '/')).contains ':')
    && (r.authority.isSome || r.path.take 2 ≠ ['/', '/'])

end IriReference

namespace Iri

/-- The IRI of a text, which has to name its scheme. -/
def ofText? (s : String) : Option Iri :=
  let r := IriReference.ofText s.toList
  if r.scheme.isSome && r.isValid then some ⟨s⟩ else none

/-- The IRI that a reference stands for beside a base, or on its own without a base. -/
def resolve? (base : Option Iri) (s : String) : Option Iri :=
  match base with
  | none => ofText? s
  | some b =>
    let r := IriReference.ofText s.toList
    let resolved := (IriReference.ofText b.text.toList).resolve r
    if r.isValid && r.isUnmistakable && resolved.isUnmistakable then
      some ⟨String.ofList resolved.text⟩
    else none

end Iri

end SparqlStream
