/-!
# Reading lists of symbols

A parser reads the beginning of a list of symbols, or fails.  The symbols of a text are its
characters; a language that is taken apart into words first has words for symbols.

A parser may also change a state.  Where a parser fails and another one is tried, reading starts
again at the same symbol, but what the first one has done to the state stays done.  A parser whose
state should be as before has to take care of that itself.

Parsers that repeat do so at most as often as there are symbols left, which is no restriction for
parsers that read at least one symbol.
-/

namespace SparqlStream

/-- Reads the beginning of a list of symbols, with a state. -/
def Parser (τ σ α : Type) := List τ → σ → Option (α × List τ) × σ

namespace Parser

variable {τ σ α β : Type}

instance : Monad (Parser τ σ) where
  pure a := fun ts s => (some (a, ts), s)
  bind p f := fun ts s =>
    match p ts s with
    | (some (a, ts), s) => f a ts s
    | (none, s) => (none, s)

instance : Alternative (Parser τ σ) where
  failure := fun _ s => (none, s)
  orElse p q := fun ts s =>
    match p ts s with
    | (some r, s) => (some r, s)
    | (none, s) => q () ts s

instance : MonadStateOf σ (Parser τ σ) where
  get := fun ts s => (some (s, ts), s)
  set s := fun ts _ => (some ((), ts), s)
  modifyGet f := fun ts s => (some ((f s).1, ts), (f s).2)

/-! ## Symbols -/

/-- The symbols that are left. -/
def rest : Parser τ σ (List τ) := fun ts s => (some (ts, ts), s)

/-- Goes on at other symbols. -/
def jump (ts : List τ) : Parser τ σ Unit := fun _ s => (some ((), ts), s)

/-- Goes on if a value is there. -/
def ofOption (a : Option α) : Parser τ σ α :=
  match a with
  | some a => pure a
  | none => failure

/-- Goes on if a condition holds. -/
def check (b : Bool) : Parser τ σ Unit := if b then pure () else failure

/-- Reads a symbol for which a function has a value. -/
def accept (f : τ → Option α) : Parser τ σ α := fun ts s =>
  match ts with
  | t :: ts => ((f t).map (·, ts), s)
  | [] => (none, s)

/-- Reads a symbol that satisfies a condition. -/
def satisfy (p : τ → Bool) : Parser τ σ τ := accept fun t => if p t then some t else none

/-- Reads a symbol. -/
def exactly [DecidableEq τ] (t : τ) : Parser τ σ Unit :=
  accept fun u => if u = t then some () else none

/-- Reads as many symbols as satisfy a condition. -/
def takeWhile (p : τ → Bool) : Parser τ σ (List τ) := do
  let ts ← rest
  jump (ts.dropWhile p)
  return ts.takeWhile p

/-- Reads at least one symbol, and as many as satisfy a condition. -/
def takeWhile1 (p : τ → Bool) : Parser τ σ (List τ) := do
  let ts ← takeWhile p
  check !ts.isEmpty
  return ts

/-- Reads the end. -/
def finished : Parser τ σ Unit := do check (← rest).isEmpty

/-! ## Texts -/

/-- The rest of a text behind some other text. -/
def behind? : List Char → List Char → Option (List Char)
  | [], cs => some cs
  | e :: es, c :: cs => if e = c then behind? es cs else none
  | _ :: _, [] => none

/-- Reads a text. -/
def text (t : String) : Parser Char σ Unit := do
  jump (← ofOption (behind? t.toList (← rest)))

/-- The rest of a text behind some other text, whatever the case of ASCII letters. -/
def behindFolded? : List Char → List Char → Option (List Char)
  | [], cs => some cs
  | e :: es, c :: cs => if e.toLower = c.toLower then behindFolded? es cs else none
  | _ :: _, [] => none

/-- Reads a text, whatever the case of ASCII letters. -/
def keyword (t : String) : Parser Char σ Unit := do
  jump (← ofOption (behindFolded? t.toList (← rest)))

/-! ## Choice and repetition -/

/-- Fails where a parser succeeds, and reads nothing. -/
def notFollowedBy (p : Parser τ σ α) : Parser τ σ Unit := fun ts s =>
  match p ts s with
  | (some _, s) => (none, s)
  | (none, s) => (some ((), ts), s)

/-- Reads something if it is there. -/
def optionally (p : Parser τ σ α) : Parser τ σ (Option α) := (some <$> p) <|> pure none

/-- Reads something at most `limit` times. -/
def manyAtMost (p : Parser τ σ α) : (limit : Nat) → Parser τ σ (List α)
  | 0 => pure []
  | limit + 1 => do
    match ← optionally p with
    | some a => return a :: (← manyAtMost p limit)
    | none => return []

/-- Reads something as often as it is there. -/
def many (p : Parser τ σ α) : Parser τ σ (List α) := do manyAtMost p ((← rest).length + 1)

/-- Reads something at least once. -/
def many1 (p : Parser τ σ α) : Parser τ σ (List α) := do
  let a ← p
  return a :: (← many p)

/-- Reads something at least once, with something between. -/
def separatedBy1 (p : Parser τ σ α) (separator : Parser τ σ β) : Parser τ σ (List α) := do
  let a ← p
  return a :: (← many (do let _ ← separator; p))

/-- Reads something any number of times, with something between. -/
def separatedBy (p : Parser τ σ α) (separator : Parser τ σ β) : Parser τ σ (List α) :=
  separatedBy1 p separator <|> pure []

/-- The symbols that a parser reads. -/
def written (p : Parser τ σ α) : Parser τ σ (List τ) := do
  let before ← rest
  let _ ← p
  let after ← rest
  return before.take (before.length - after.length)

/-- Tries some parsers in order. -/
def firstOf : List (Parser τ σ α) → Parser τ σ α
  | [] => failure
  | p :: rest => p <|> firstOf rest

/-- Reads all symbols. -/
def run? (p : Parser τ σ α) (s : σ) (ts : List τ) : Option α :=
  ((do let a ← p; finished; pure a : Parser τ σ α) ts s).1.map (·.1)

end Parser

end SparqlStream
