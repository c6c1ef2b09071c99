import SparqlStream.Binding
import SparqlStream.Expression.Language
import SparqlStream.Expression.Value
import SparqlStream.Regex.Reader
import SparqlStream.Unicode.Case

/-!
# Evaluation

The value of an expression for one binding.  Alternatives and conjunctions look at both sides and
absorb an error of one of them if the other side decides; a membership test absorbs errors of the
candidates if one of the others is equal.  Everything else that has an operand without a value
has none, for the reason of the first such operand.
-/

namespace SparqlStream

/-- How the value of an expression is found. -/
abbrev Evaluator := Expression → Binding → Except EvaluationError Term

namespace Expression

/-- The truth value of an alternative of two conditions. -/
def disjunction (left right : Except EvaluationError Bool) : Except EvaluationError Bool :=
  match left, right with
  | .ok true, _ | _, .ok true => .ok true
  | .ok false, .ok false => .ok false
  | .error e, _ | _, .error e => .error e

/-- The truth value of a conjunction of two conditions. -/
def conjunction (left right : Except EvaluationError Bool) : Except EvaluationError Bool :=
  match left, right with
  | .ok false, _ | _, .ok false => .ok false
  | .ok true, .ok true => .ok true
  | .error e, _ | _, .error e => .error e

/-- Whether a term equals one of some candidates.  If none does, the last error counts. -/
def membership (needle : Term) (last : Option EvaluationError) :
    List (Except EvaluationError Term) → Except EvaluationError Bool
  | [] =>
    match last with
    | none => .ok false
    | some e => .error e
  | .ok t :: rest => if needle.equals t then .ok true else membership needle last rest
  | .error e :: rest => membership needle (some e) rest

/-- The first value of some alternatives, or the last error. -/
def firstValue (last : EvaluationError) :
    List (Except EvaluationError Term) → Except EvaluationError Term
  | [] => .error last
  | .ok t :: _ => .ok t
  | .error e :: rest => firstValue e rest

/-- All values of some arguments, or the first error. -/
def allValues : List (Except EvaluationError Term) → Except EvaluationError (List Term)
  | [] => .ok []
  | .ok t :: rest => (allValues rest).map (t :: ·)
  | .error e :: _ => .error e

/-- The number that an operator makes of two numbers. -/
def combine (op : Arithmetic) (a b : Numeric) : Except EvaluationError Numeric :=
  let operands := NumericPair.promote a b
  let result :=
    match op with
    | .add => operands.add?
    | .subtract => operands.sub?
    | .multiply => operands.mul?
    | .divide => operands.div?
  match result with
  | some n => .ok n
  | none => .error (.type (.arithmeticFailed op))

/-- The mode that the letters of a flags argument ask for. -/
def regexMode (m : Regex.Mode) : List Char → Except EvaluationError Regex.Mode
  | [] => .ok m
  | c :: rest =>
    match c with
    | 'i' => regexMode { m with ignoreCase := true } rest
    | 'm' => regexMode { m with multiLine := true } rest
    | 's' => regexMode { m with dotAll := true } rest
    | 'x' => regexMode { m with verbose := true } rest
    | _ => .error (.type (.unknownRegexFlag c))

/-- Whether a pattern matches some part of a text. -/
def regexMatches (text pattern : Term) (flags : Option Term) : Except EvaluationError Term := do
  let text ← text.string
  let pattern ← pattern.string
  let mode ←
    match flags with
    | none => .ok Regex.Mode.standard
    | some f => do regexMode .standard (← f.string).value.toList
  match Regex.parse? mode pattern.value with
  | some r => .ok (.ofBool (r.matchesIn text.value))
  | none => .error .invalidRegex

/-- Whether a list of characters occurs in another one. -/
def occursIn (needle : List Char) : List Char → Bool
  | [] => needle.isEmpty
  | c :: rest => needle.isPrefixOf (c :: rest) || occursIn needle rest

/-- The value of a function for its arguments. -/
def apply (b : Builtin) (arguments : List Term) : Except EvaluationError Term :=
  let text (s : String) : Except EvaluationError Term := .ok (.literal (.simple s))
  let truth (v : Bool) : Except EvaluationError Term := .ok (.ofBool v)
  let invalid : Except EvaluationError Term :=
    .error (.type (.invalidArguments (.builtin b) arguments))
  match b, arguments with
  | .str, [.iri i] => text i.text
  | .str, [.literal l] => text l.value
  | .lang, [.literal l] => text (l.language?.getD "")
  | .datatype, [.literal l] => .ok (.iri l.datatype)
  | .isIri, [t] => truth (match t with | .iri _ => true | _ => false)
  | .isBlank, [t] => truth (match t with | .blank _ => true | _ => false)
  | .isLiteral, [t] => truth (match t with | .literal _ => true | _ => false)
  | .isNumeric, [t] => truth t.numeric?.isSome
  | .strLen, [t] => do
    match (Signed.ofInt? (← t.string).value.length : Option (Signed 64)) with
    | some n => .ok (.literal (.ofInt n.toInt))
    | none => .error (.type .stringTooLong)
  | .uCase, [t] => do
    let l ← t.string
    .ok (.literal (l.withText (Unicode.toUpper l.value)))
  | .lCase, [t] => do
    let l ← t.string
    .ok (.literal (l.withText (Unicode.toLower l.value)))
  | .contains, [a, b] => do
    let (x, y) ← stringPair a b
    truth (occursIn y.toList x.toList)
  | .strStarts, [a, b] => do
    let (x, y) ← stringPair a b
    truth (y.toList.isPrefixOf x.toList)
  | .strEnds, [a, b] => do
    let (x, y) ← stringPair a b
    truth (y.toList.isSuffixOf x.toList)
  | .langMatches, [tag, range] => do
    let tag ← tag.string
    let range ← range.string
    truth (LanguageRange.contains range.value tag.value)
  | .regex, [t, pattern] => regexMatches t pattern none
  | .regex, [t, pattern, flags] => regexMatches t pattern (some flags)
  | .str, _ | .lang, _ | .datatype, _ | .isIri, _ | .isBlank, _ | .isLiteral, _ | .isNumeric, _
  | .strLen, _ | .uCase, _ | .lCase, _ | .contains, _ | .strStarts, _ | .strEnds, _
  | .langMatches, _ | .regex, _ => invalid
  | _, _ => .error (.unsupportedFunction (.builtin b))

mutual

/-- The value of an expression for a binding. -/
def evaluate (e : Expression) (b : Binding) : Except EvaluationError Term :=
  match e with
  | .iri i => .ok (.iri i)
  | .literal l => .ok (.literal l)
  | .var v =>
    match b.get? v with
    | some t => .ok t
    | none => .error (.unboundVariable v)
  | .or l r =>
    (disjunction ((l.evaluate b).bind Term.truthValue) ((r.evaluate b).bind Term.truthValue)).map
      Term.ofBool
  | .and l r =>
    (conjunction ((l.evaluate b).bind Term.truthValue) ((r.evaluate b).bind Term.truthValue)).map
      Term.ofBool
  | .not inner => do
    let v ← (← inner.evaluate b).truthValue
    .ok (.ofBool !v)
  | .equal l r => do
    let x ← l.evaluate b
    let y ← r.evaluate b
    .ok (.ofBool (x.equals y))
  | .sameTerm l r => do
    let x ← l.evaluate b
    let y ← r.evaluate b
    .ok (.ofBool (decide (x = y)))
  | .compare c l r => do
    let x ← l.evaluate b
    let y ← r.evaluate b
    let o ← x.order y
    .ok (.ofBool (c.accepts o))
  | .oneOf needle candidates => do
    let n ← needle.evaluate b
    (membership n none (evaluateAll candidates b)).map Term.ofBool
  | .arithmetic op l r => do
    let x ← (← l.evaluate b).numeric
    let y ← (← r.evaluate b).numeric
    let n ← combine op x y
    .ok (.literal n.toLiteral)
  | .plus inner => do
    let t ← inner.evaluate b
    let _ ← t.numeric
    .ok t
  | .minus inner => do
    let n ← (← inner.evaluate b).numeric
    match n.neg? with
    | some m => .ok (.literal m.toLiteral)
    | none => .error (.type .negationOverflow)
  | .bound v => .ok (.ofBool (b.contains v))
  | .ifThenElse c onTrue onFalse => do
    let v ← (← c.evaluate b).truthValue
    if v then onTrue.evaluate b else onFalse.evaluate b
  | .coalesce alternatives => firstValue (.type .nothingToChoose) (evaluateAll alternatives b)
  | .call f arguments => do
    let ts ← allValues (evaluateAll arguments b)
    match f with
    | .builtin f => apply f ts
    | .custom _ => .error (.unsupportedFunction f)
  | .patternExists => .error .unsupportedExists

/-- The values of some expressions for a binding. -/
def evaluateAll (es : List Expression) (b : Binding) : List (Except EvaluationError Term) :=
  match es with
  | [] => []
  | e :: rest => e.evaluate b :: evaluateAll rest b

end

/-- The value of an order key; an expression without a value gives none. -/
def keyValue (eval : Evaluator) (e : Expression) (b : Binding) : Option Term :=
  (eval e b).toOption

end Expression

end SparqlStream
