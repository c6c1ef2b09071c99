import Mathlib.Tactic
import SparqlStream.Expression.Evaluate

/-!
# Membership is an alternative of equalities

A membership test evaluates its needle once, stops at the first candidate that is equal, and keeps
an error of a candidate for the end.  An alternative of equalities evaluates the needle again for
each candidate, looks at all of them, and absorbs errors wherever its parentheses are.  Both have
the same truth value or none: `Expression.oneOf_alternative`.

What they have in common is `IsMembership`: true if a candidate has an equal value, false if all
candidates have values and none is equal.  This holds of a membership test, and of an alternative of
two parts for the candidates of both, so the parentheses do not matter.
-/

namespace SparqlStream

namespace Expression

/-! ## Truth values of membership -/

section Truth

variable {n : Term} {last : Option EvaluationError}
  {xs ys : List (Except EvaluationError Term)} {r r' : Except EvaluationError Bool}

/-- A result says whether a term equals one of some candidates, as far as they have values. -/
structure IsMembership (n : Term) (xs : List (Except EvaluationError Term))
    (r : Except EvaluationError Bool) : Prop where
  true_iff : r = .ok true ↔ ∃ t, .ok t ∈ xs ∧ n.equals t = true
  false_iff : r = .ok false ↔ ∀ x ∈ xs, ∃ t, x = .ok t ∧ n.equals t = false

/-- Two results for the same candidates are the same truth value, or both are errors. -/
lemma IsMembership.agree (h : IsMembership n xs r) (h' : IsMembership n xs r') :
    (∃ v, r = .ok v ∧ r' = .ok v) ∨ (∃ e, r = .error e) ∧ ∃ e, r' = .error e := by
  have htrue : r = .ok true ↔ r' = .ok true := h.true_iff.trans h'.true_iff.symm
  have hfalse : r = .ok false ↔ r' = .ok false := h.false_iff.trans h'.false_iff.symm
  rcases r with e | _ | _
  · rcases r' with e' | _ | _
    · exact .inr ⟨⟨e, rfl⟩, e', rfl⟩
    · cases hfalse.2 rfl
    · cases htrue.2 rfl
  · exact .inl ⟨false, rfl, hfalse.1 rfl⟩
  · exact .inl ⟨true, rfl, htrue.1 rfl⟩

lemma disjunction_eq_true_iff :
    disjunction r r' = .ok true ↔ r = .ok true ∨ r' = .ok true := by
  rcases r with e | _ | _ <;> rcases r' with e' | _ | _ <;> simp [disjunction]

lemma disjunction_eq_false_iff :
    disjunction r r' = .ok false ↔ r = .ok false ∧ r' = .ok false := by
  rcases r with e | _ | _ <;> rcases r' with e' | _ | _ <;> simp [disjunction]

/-- An alternative speaks about the candidates of both sides. -/
lemma IsMembership.disjunction (h : IsMembership n xs r) (h' : IsMembership n ys r') :
    IsMembership n (xs ++ ys) (disjunction r r') where
  true_iff := by
    rw [disjunction_eq_true_iff, h.true_iff, h'.true_iff]
    simp only [List.mem_append, or_and_right, exists_or]
  false_iff := by
    rw [disjunction_eq_false_iff, h.false_iff, h'.false_iff, List.forall_mem_append]

lemma membership_eq_true_iff :
    membership n last xs = .ok true ↔ ∃ t, .ok t ∈ xs ∧ n.equals t = true := by
  induction xs generalizing last with
  | nil => cases last <;> simp [membership]
  | cons x xs ih =>
    cases x with
    | error e => simp [membership, ih]
    | ok t =>
      rw [membership]
      split
      · next heq => simp [heq]
      · next hne => simp [ih, hne]

lemma membership_eq_false_iff : membership n last xs = .ok false ↔
    last = none ∧ ∀ x ∈ xs, ∃ t, x = .ok t ∧ n.equals t = false := by
  induction xs generalizing last with
  | nil => cases last <;> simp [membership]
  | cons x xs ih =>
    cases x with
    | error e => simp [membership, ih]
    | ok t =>
      rw [membership]
      split
      · next heq => simp [heq]
      · next hne => simp [ih, hne]

/-- A membership test has the truth value of membership. -/
lemma isMembership_membership (n : Term) (xs : List (Except EvaluationError Term)) :
    IsMembership n xs (membership n none xs) where
  true_iff := membership_eq_true_iff
  false_iff := by rw [membership_eq_false_iff]; simp

/-- So has an equality, for a single candidate. -/
lemma isMembership_equals (n : Term) (x : Except EvaluationError Term) :
    IsMembership n [x] (x.map n.equals) where
  true_iff := by cases x <;> simp [Except.map]
  false_iff := by cases x <;> simp [Except.map]

end Truth

/-! ## Alternatives of equalities -/

/-- Some expressions, at least one, with parentheses around them. -/
inductive Grouping where
  | one (e : Expression)
  | both (left right : Grouping)

namespace Grouping

/-- The expressions without their parentheses. -/
def members : Grouping → List Expression
  | one e => [e]
  | both l r => l.members ++ r.members

/-- The alternative that an expression equals one of the members. -/
def equalities (x : Expression) : Grouping → Expression
  | one e => .equal x e
  | both l r => .or (l.equalities x) (r.equalities x)

/-- Every list that is not empty can be given parentheses. -/
lemma exists_members_eq_iff {es : List Expression} :
    (∃ g : Grouping, g.members = es) ↔ es ≠ [] := by
  constructor
  · rintro ⟨g, rfl⟩
    induction g with
    | one e => exact List.cons_ne_nil e []
    | both l r ihl _ => exact List.append_ne_nil_of_left_ne_nil ihl _
  · intro hne
    induction es with
    | nil => exact absurd rfl hne
    | cons e es ih =>
      cases es with
      | nil => exact ⟨.one e, rfl⟩
      | cons f fs =>
        obtain ⟨g, hg⟩ := ih (List.cons_ne_nil f fs)
        exact ⟨.both (.one e) g, by rw [members, members, hg, List.singleton_append]⟩

end Grouping

variable {x : Expression} {b : Binding} {n : Term}

lemma truthValue_ofBool (v : Bool) : (Term.ofBool v).truthValue = .ok v := by
  cases v <;> decide +kernel

lemma bind_truthValue_map_ofBool (r : Except EvaluationError Bool) :
    (r.map Term.ofBool).bind Term.truthValue = r := by
  cases r with
  | error e => rfl
  | ok v => exact truthValue_ofBool v

lemma evaluateAll_append (es fs : List Expression) (b : Binding) :
    evaluateAll (es ++ fs) b = evaluateAll es b ++ evaluateAll fs b := by
  induction es with
  | nil => rw [evaluateAll, List.nil_append, List.nil_append]
  | cons e es ih => rw [List.cons_append, evaluateAll, evaluateAll, ih, List.cons_append]

/-- Whatever its parentheses are, an alternative of equalities has the truth value of membership. -/
lemma exists_isMembership (hx : x.evaluate b = .ok n) (g : Grouping) :
    ∃ r, (g.equalities x).evaluate b = r.map Term.ofBool ∧
      IsMembership n (evaluateAll g.members b) r := by
  induction g with
  | one e =>
    refine ⟨_, ?_, isMembership_equals n (e.evaluate b)⟩
    rw [Grouping.equalities, evaluate, hx]
    cases e.evaluate b <;> rfl
  | both l r ihl ihr =>
    obtain ⟨rl, hl, hmembersl⟩ := ihl
    obtain ⟨rr, hr, hmembersr⟩ := ihr
    refine ⟨disjunction rl rr, ?_, ?_⟩
    · rw [Grouping.equalities, evaluate, hl, hr, bind_truthValue_map_ofBool,
        bind_truthValue_map_ofBool]
    · rw [Grouping.members, evaluateAll_append]
      exact hmembersl.disjunction hmembersr

/-- Without a needle there is no truth value. -/
lemma exists_error_of_needle {err : EvaluationError} (hx : x.evaluate b = .error err)
    (g : Grouping) : ∃ e, (g.equalities x).evaluate b = .error e := by
  induction g with
  | one e =>
    refine ⟨err, ?_⟩
    rw [Grouping.equalities, evaluate, hx]
    rfl
  | both l r ihl ihr =>
    obtain ⟨el, hl⟩ := ihl
    obtain ⟨er, hr⟩ := ihr
    refine ⟨el, ?_⟩
    rw [Grouping.equalities, evaluate, hl, hr]
    rfl

/-- Two expressions have the same truth value, or neither has a value. -/
inductive SameVerdict (b : Binding) (e e' : Expression) : Prop
  | value (v : Bool) (h : e.evaluate b = .ok (.ofBool v)) (h' : e'.evaluate b = .ok (.ofBool v))
  | failure (err err' : EvaluationError) (h : e.evaluate b = .error err)
      (h' : e'.evaluate b = .error err')

lemma SameVerdict.of_isMembership {e e' : Expression} {r r' : Except EvaluationError Bool}
    {xs : List (Except EvaluationError Term)} (he : e.evaluate b = r.map Term.ofBool)
    (he' : e'.evaluate b = r'.map Term.ofBool) (h : IsMembership n xs r)
    (h' : IsMembership n xs r') : SameVerdict b e e' := by
  rcases h.agree h' with ⟨v, rfl, rfl⟩ | ⟨⟨err, rfl⟩, err', rfl⟩
  · exact .value v he he'
  · exact .failure err err' he he'

/-- **Membership.**  A membership test and the alternative of the equalities with its candidates
have the same truth value, or both have none, whatever the parentheses of the alternative are and
whichever operands have no value.  The candidates can be any list that is not empty. -/
theorem oneOf_alternative (x : Expression) (b : Binding) :
    (∀ g : Grouping, SameVerdict b (.oneOf x g.members) (g.equalities x)) ∧
      ∀ es, (∃ g : Grouping, g.members = es) ↔ es ≠ [] := by
  refine ⟨fun g => ?_, fun es => Grouping.exists_members_eq_iff⟩
  cases hx : x.evaluate b with
  | error err =>
    obtain ⟨e, he⟩ := exists_error_of_needle hx g
    refine .failure err e ?_ he
    rw [evaluate, hx]
    rfl
  | ok n =>
    have hone : (Expression.oneOf x g.members).evaluate b =
        (membership n none (evaluateAll g.members b)).map Term.ofBool := by
      rw [evaluate, hx]
      rfl
    obtain ⟨r, hr, hmembers⟩ := exists_isMembership hx g
    exact .of_isMembership hone hr (isMembership_membership n _) hmembers

end Expression

end SparqlStream
