import Mathlib.Tactic
import SparqlStream.Expression.Evaluate
import SparqlStream.Proofs.Extension

/-!
# Values persist

A solution binds more and more variables while it is put together.  An expression that already has a
value keeps it then, unless it asks what is missing: whether a variable is bound, or which is the
first of some expressions that has a value.  All other expressions are steady, and
`Expression.keeps_value` says that their values persist.

Operands of steady expressions need not be steady in this sense.  Alternatives, conjunctions and
membership tests absorb errors, so an operand without a value may get any value later.  The order on
results is therefore the flat one, in which an error is below everything (`Persists`), and every
operator is monotone for it.
-/

namespace SparqlStream

/-! ## Results that persist -/

/-- A value stays as it is; an error may be followed by anything. -/
def Persists {ε α : Type} (x y : Except ε α) : Prop := ∀ a, x = .ok a → y = .ok a

section Results

variable {ε α β : Type} {x y : Except ε α}

lemma persists_refl (x : Except ε α) : Persists x x := fun _ h => h

lemma persists_error (e : ε) (y : Except ε α) : Persists (.error e) y := by
  intro a h
  cases h

lemma Persists.bind {f g : α → Except ε β} (h : Persists x y) (hf : ∀ a, Persists (f a) (g a)) :
    Persists (x >>= f) (y >>= g) := by
  cases x with
  | error e => exact persists_error e _
  | ok a =>
    rw [h a rfl]
    exact hf a

lemma Persists.map (h : Persists x y) (f : α → β) : Persists (x.map f) (y.map f) := by
  cases x with
  | error e => exact persists_error e _
  | ok a =>
    rw [h a rfl]
    exact persists_refl _

end Results

/-! ## Bindings of more variables -/

namespace Binding

variable {b b' : Binding}

/-- A binding binds every variable of another one to the same term. -/
def Includes (b' b : Binding) : Prop := ∀ v t, b.get? v = some t → b'.get? v = some t

/-- Entries at the end of a binding do not change what is bound before. -/
lemma includes_append (b : Binding) (added : List (Variable × Term)) :
    Includes ⟨b.entries ++ added⟩ b := by
  intro v t h
  rw [get?_append, h, Option.some_or]

end Binding

namespace Expression

/-! ## Operators -/

section Operators

variable {l l' r r' : Except EvaluationError Bool} {n : Term} {last last' : Option EvaluationError}
  {xs ys : List (Except EvaluationError Term)}

/-- An alternative is decided by one side that is true, or by both sides. -/
lemma persists_disjunction (hl : Persists l l') (hr : Persists r r') :
    Persists (disjunction l r) (disjunction l' r') := by
  intro v h
  rcases l with e | _ | _ <;> rcases r with e' | _ | _
  case error.error | error.ok.false | ok.false.error => cases h
  case ok.false.ok.false => rwa [hl _ rfl, hr _ rfl]
  case ok.true.error | ok.true.ok.false | ok.true.ok.true =>
    rw [hl _ rfl]
    exact h
  case error.ok.true | ok.false.ok.true =>
    rw [hr _ rfl]
    cases h
    rcases l' with e | _ | _ <;> rfl

/-- A conjunction is decided by one side that is false, or by both sides. -/
lemma persists_conjunction (hl : Persists l l') (hr : Persists r r') :
    Persists (conjunction l r) (conjunction l' r') := by
  intro v h
  rcases l with e | _ | _ <;> rcases r with e' | _ | _
  case error.error | error.ok.true | ok.true.error => cases h
  case ok.true.ok.true => rwa [hl _ rfl, hr _ rfl]
  case ok.false.error | ok.false.ok.false | ok.false.ok.true =>
    rw [hl _ rfl]
    exact h
  case error.ok.false | ok.true.ok.false =>
    rw [hr _ rfl]
    cases h
    rcases l' with e | _ | _ <;> rfl

/-- After an error a membership test is not false any more. -/
lemma membership_some_ne_false (e : EvaluationError) :
    membership n (some e) xs ≠ .ok false := by
  induction xs generalizing e with
  | nil => exact nofun
  | cons x xs ih =>
    cases x with
    | error e' => exact ih e'
    | ok t =>
      rw [membership]
      split
      · exact nofun
      · exact ih e

/-- A membership test that is true stays true, as its candidate is still there.  One that is false
has met no error, so all its candidates stay. -/
lemma persists_membership (hxs : List.Forall₂ Persists xs ys) (hlast : last = none → last' = none) :
    Persists (membership n last xs) (membership n last' ys) := by
  induction hxs generalizing last last' with
  | nil =>
    cases last with
    | none => rw [hlast rfl]; exact persists_refl _
    | some e => exact persists_error e _
  | @cons x y xs ys hxy _ ih =>
    cases x with
    | ok t =>
      rw [hxy t rfl, membership, membership]
      split
      · exact persists_refl _
      · exact ih hlast
    | error e =>
      have hrest : ∀ last', Persists (membership n (some e) xs) (membership n last' ys) :=
        fun last' => ih nofun
      cases y with
      | error e' => exact hrest (some e')
      | ok t =>
        rw [membership, membership]
        split
        · intro v hv
          cases v with
          | true => rfl
          | false => exact absurd hv (membership_some_ne_false e)
        · exact hrest last'

/-- Arguments that all have values keep them. -/
lemma persists_allValues (hxs : List.Forall₂ Persists xs ys) :
    Persists (allValues xs) (allValues ys) := by
  induction hxs with
  | nil => exact persists_refl _
  | @cons x y xs ys hxy _ ih =>
    cases x with
    | error e => exact persists_error e _
    | ok t =>
      rw [hxy t rfl, allValues, allValues]
      exact ih.map _

end Operators

/-! ## Expressions -/

mutual

/-- An expression does not ask what is missing: no part of it tests whether a variable is bound or
takes the first of some values. -/
def IsSteady : Expression → Prop
  | iri _ | literal _ | var _ | patternExists => True
  | bound _ | coalesce _ => False
  | or l r | and l r | equal l r | sameTerm l r | compare _ l r | arithmetic _ l r =>
    l.IsSteady ∧ r.IsSteady
  | not inner | plus inner | minus inner => inner.IsSteady
  | oneOf needle candidates => needle.IsSteady ∧ AreSteady candidates
  | ifThenElse c onTrue onFalse => c.IsSteady ∧ onTrue.IsSteady ∧ onFalse.IsSteady
  | call _ arguments => AreSteady arguments

/-- Some expressions do not ask what is missing. -/
def AreSteady : List Expression → Prop
  | [] => True
  | e :: rest => e.IsSteady ∧ AreSteady rest

end

section Evaluation

variable {b b' : Binding}

mutual

/-- The value of an expression persists. -/
lemma persists_evaluate (hb : b'.Includes b) :
    (e : Expression) → e.IsSteady → Persists (e.evaluate b) (e.evaluate b')
  | .iri _, _ | .literal _, _ | .patternExists, _ => by
    rw [evaluate, evaluate]
    exact persists_refl _
  | .var v, _ => by
    rw [evaluate, evaluate]
    cases hv : b.get? v with
    | none => exact persists_error _ _
    | some t =>
      rw [hb v t hv]
      exact persists_refl _
  | .or l r, h => by
    rw [evaluate, evaluate]
    have hl := (persists_evaluate hb l h.1).bind fun t => persists_refl t.truthValue
    have hr := (persists_evaluate hb r h.2).bind fun t => persists_refl t.truthValue
    exact (persists_disjunction hl hr).map _
  | .and l r, h => by
    rw [evaluate, evaluate]
    have hl := (persists_evaluate hb l h.1).bind fun t => persists_refl t.truthValue
    have hr := (persists_evaluate hb r h.2).bind fun t => persists_refl t.truthValue
    exact (persists_conjunction hl hr).map _
  | .equal l r, h | .sameTerm l r, h | .compare _ l r, h => by
    rw [evaluate, evaluate]
    have hl := persists_evaluate hb l h.1
    have hr := persists_evaluate hb r h.2
    exact hl.bind fun t => hr.bind fun u => persists_refl _
  | .arithmetic _ l r, h => by
    rw [evaluate, evaluate]
    have hl := persists_evaluate hb l h.1
    have hr := persists_evaluate hb r h.2
    exact hl.bind fun t => (persists_refl t.numeric).bind fun x => hr.bind fun u => persists_refl _
  | .not inner, h | .plus inner, h | .minus inner, h => by
    rw [evaluate, evaluate]
    exact (persists_evaluate hb inner h).bind fun t => persists_refl _
  | .oneOf needle candidates, h => by
    rw [evaluate, evaluate]
    refine (persists_evaluate hb needle h.1).bind fun n => ?_
    exact (persists_membership (persists_evaluateAll hb candidates h.2) id).map _
  | .ifThenElse c onTrue onFalse, h => by
    rw [evaluate, evaluate]
    refine (persists_evaluate hb c h.1).bind fun t => (persists_refl t.truthValue).bind fun v => ?_
    cases v with
    | true => exact persists_evaluate hb onTrue h.2.1
    | false => exact persists_evaluate hb onFalse h.2.2
  | .bound _, h | .coalesce _, h => h.elim
  | .call f arguments, h => by
    rw [evaluate, evaluate]
    exact (persists_allValues (persists_evaluateAll hb arguments h)).bind fun ts => persists_refl _

/-- The values of some expressions persist. -/
lemma persists_evaluateAll (hb : b'.Includes b) : (es : List Expression) → AreSteady es →
    List.Forall₂ Persists (evaluateAll es b) (evaluateAll es b')
  | [], _ => by
    rw [evaluateAll, evaluateAll]
    exact .nil
  | e :: rest, h => by
    rw [evaluateAll, evaluateAll]
    exact .cons (persists_evaluate hb e h.1) (persists_evaluateAll hb rest h.2)

end

/-- **Persistence.**  If an expression that does not ask what is missing has a value for a binding,
it has the same value for every binding that includes this one. -/
theorem keeps_value {e : Expression} (he : e.IsSteady) (hb : b'.Includes b) {t : Term}
    (ht : e.evaluate b = .ok t) : e.evaluate b' = .ok t :=
  persists_evaluate hb e he t ht

end Evaluation

/-- A binding of `?n`. -/
def earlyBinding : Binding := ⟨[(⟨"n"⟩, .literal (.ofInt 5))]⟩

/-- The same binding with a binding of `?m`. -/
def lateBinding : Binding := ⟨earlyBinding.entries ++ [(⟨"m"⟩, .literal (.ofInt 7))]⟩

/-- `IF(?n IN (?m, 5) && (?m = 1 || ?n = 5), ?n * 2, ?m)` -/
def sampleChoice : Expression :=
  .ifThenElse
    (.and (.oneOf (.var ⟨"n"⟩) [.var ⟨"m"⟩, .literal (.ofInt 5)])
      (.or (.equal (.var ⟨"m"⟩) (.literal (.ofInt 1)))
        (.equal (.var ⟨"n"⟩) (.literal (.ofInt 5)))))
    (.arithmetic .multiply (.var ⟨"n"⟩) (.literal (.ofInt 2)))
    (.var ⟨"m"⟩)

/-- Operands that have no value at first get one, and the value of the whole stays the same. -/
theorem keeps_value_sample :
    sampleChoice.IsSteady ∧ lateBinding.Includes earlyBinding ∧
      sampleChoice.evaluate earlyBinding = .ok (.literal (.ofInt 10)) ∧
      sampleChoice.evaluate lateBinding = .ok (.literal (.ofInt 10)) := by
  have hsteady : sampleChoice.IsSteady := by simp [sampleChoice, IsSteady, AreSteady]
  have hincludes : lateBinding.Includes earlyBinding := earlyBinding.includes_append _
  have hvalue : sampleChoice.evaluate earlyBinding = .ok (.literal (.ofInt 10)) := by
    decide +kernel
  exact ⟨hsteady, hincludes, hvalue, keeps_value hsteady hincludes hvalue⟩

/-- A test for what is missing changes its value. -/
example : (bound ⟨"m"⟩).evaluate earlyBinding = .ok (.ofBool false) ∧
    (bound ⟨"m"⟩).evaluate lateBinding = .ok (.ofBool true) := by decide +kernel

end Expression

end SparqlStream
