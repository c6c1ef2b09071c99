import SparqlStream.Expression.Basic

/-!
# Why an expression has no value

The causes for which an expression has no value for a binding, and their wording.
-/

namespace SparqlStream

/-- An operand that its operator does not accept, or a result that is out of range. -/
inductive TypeError where
  | notNumber (t : Term)
  | notString (t : Term)
  | noTruthValue (t : Term)
  | invalidBoolean (t : Term)
  | unordered (left right : Term)
  | incompatibleLanguages
  | negationOverflow
  | arithmeticFailed (op : Arithmetic)
  | nothingToChoose
  | stringTooLong
  | unknownRegexFlag (c : Char)
  | invalidArguments (function : Function) (arguments : List Term)
  deriving DecidableEq, Repr

/-- Why an expression has no value for a binding. -/
inductive EvaluationError where
  | unboundVariable (v : Variable)
  | type (cause : TypeError)
  | unsupportedFunction (function : Function)
  | unsupportedExists
  | invalidRegex
  deriving DecidableEq, Repr

namespace TypeError

/-- The wording of a cause. -/
def message : TypeError → String
  | notNumber t => t.render ++ " is not a number"
  | notString t => t.render ++ " is not a string"
  | noTruthValue t => t.render ++ " has no boolean value"
  | invalidBoolean t => t.render ++ " is not a valid boolean"
  | unordered l r => l.render ++ " and " ++ r.render ++ " are unordered"
  | incompatibleLanguages => "Incompatible language tags"
  | negationOverflow => "Numeric overflow"
  | arithmeticFailed op => "Numeric overflow or division by zero in " ++ op.name
  | nothingToChoose => "COALESCE without a bound value"
  | stringTooLong => "String too long"
  | unknownRegexFlag c => "Unknown regex flag " ++ c.toString
  | invalidArguments f ts =>
    "Invalid arguments for " ++ f.render ++ ": " ++ ", ".intercalate (ts.map Term.render)

end TypeError

namespace EvaluationError

/-- The wording of an error. -/
def message : EvaluationError → String
  | unboundVariable v => "The variable " ++ v.render ++ " is not bound"
  | type cause => "Type error: " ++ cause.message
  | unsupportedFunction f => "Unsupported expression: " ++ f.render
  | unsupportedExists => "Unsupported expression: EXISTS"
  | invalidRegex => "Invalid regular expression"

end EvaluationError

end SparqlStream
