import Mathlib.Tactic
import SparqlStream.Expression.Evaluate
import SparqlStream.Proofs.NumberTexts

/-!
# Exact expressions

Sums, differences, products and signs of integers and decimals have a value over the rational
numbers, and so has an expression that is built with them: `Expression.Denotes`.  There is only one,
`Expression.Denotes.unique`.  Every operator reads its operands from literals and writes its result
as a literal.  As texts of exact numbers are read as what they were written for, nothing is lost
between two operators, and the value of the whole expression is exact.  It is missing only if the
exact result of some operator is not represented by its kind: `Expression.Overflows`.

The operators that compare two terms read the two numbers and promote them, each on its own, and so
do the keys of an order.  For exact numbers all of them come to the verdict of the rational numbers:
`Expression.compares_exactly`.
-/

namespace SparqlStream

namespace Expression

variable {b : Binding} {e l r : Expression} {op : Arithmetic} {k k' : ExactKind} {x y : ℚ}

/-! ## Values over the rational numbers -/

/-- `e.Denotes b k x` says that `e` is built with additions, subtractions, multiplications and signs
from literals that are integers or decimals and from variables that are bound to such literals, and
that its value over the rational numbers is `x`.  The kind of this value is `k`. -/
inductive Denotes (b : Binding) : Expression → ExactKind → ℚ → Prop
  | literal {value : Literal} {k : ExactKind} {x : ℚ} (h : value.IsExactly k x) :
      Denotes b (.literal value) k x
  | var {v : Variable} {value : Literal} {k : ExactKind} {x : ℚ}
      (hv : b.get? v = some (.literal value)) (h : value.IsExactly k x) : Denotes b (.var v) k x
  | add {l r : Expression} {k k' : ExactKind} {x y : ℚ} (hl : Denotes b l k x)
      (hr : Denotes b r k' y) : Denotes b (.arithmetic .add l r) (k.join k') (x + y)
  | subtract {l r : Expression} {k k' : ExactKind} {x y : ℚ} (hl : Denotes b l k x)
      (hr : Denotes b r k' y) : Denotes b (.arithmetic .subtract l r) (k.join k') (x - y)
  | multiply {l r : Expression} {k k' : ExactKind} {x y : ℚ} (hl : Denotes b l k x)
      (hr : Denotes b r k' y) : Denotes b (.arithmetic .multiply l r) (k.join k') (x * y)
  | plus {e : Expression} {k : ExactKind} {x : ℚ} (h : Denotes b e k x) : Denotes b (.plus e) k x
  | minus {e : Expression} {k : ExactKind} {x : ℚ} (h : Denotes b e k x) :
      Denotes b (.minus e) k (-x)

/-- The value of the expression or of a part of it is not represented by its kind. -/
inductive Overflows (b : Binding) : Expression → Prop
  | here {e : Expression} {k : ExactKind} {x : ℚ} (h : e.Denotes b k x) (hx : ¬ k.Represents x) :
      Overflows b e
  | left {op : Arithmetic} {l r : Expression} (h : Overflows b l) :
      Overflows b (.arithmetic op l r)
  | right {op : Arithmetic} {l r : Expression} (h : Overflows b r) :
      Overflows b (.arithmetic op l r)
  | plus {e : Expression} (h : Overflows b e) : Overflows b (.plus e)
  | minus {e : Expression} (h : Overflows b e) : Overflows b (.minus e)

/-- The value of an expression over the rational numbers is determined. -/
theorem Denotes.unique (h : e.Denotes b k x) (h' : e.Denotes b k' y) : k = k' ∧ x = y := by
  induction h generalizing k' y with
  | literal h =>
    cases h' with
    | literal h' => exact h.unique h'
  | var hv h =>
    cases h' with
    | var hv' h' =>
      cases hv.symm.trans hv'
      exact h.unique h'
  | add _ _ ihl ihr | subtract _ _ ihl ihr | multiply _ _ ihl ihr =>
    cases h'
    next hl hr =>
      obtain ⟨rfl, rfl⟩ := ihl hl
      obtain ⟨rfl, rfl⟩ := ihr hr
      exact ⟨rfl, rfl⟩
  | plus _ ih =>
    cases h' with
    | plus h' => exact ih h'
  | minus _ ih =>
    cases h' with
    | minus h' =>
      obtain ⟨rfl, rfl⟩ := ih h'
      exact ⟨rfl, rfl⟩

/-! ## Single operators -/

/-- An expression is evaluated to a literal for a number, or it overflows and has no value. -/
inductive HasOutcome (b : Binding) (e : Expression) (k : ExactKind) (x : ℚ) : Prop
  | value {u : Literal} (he : e.evaluate b = .ok (.literal u)) (hu : u.IsExactly k x)
  | overflow {err : EvaluationError} (he : e.evaluate b = .error err) (hover : e.Overflows b)

lemma isExactly_toLiteral {n : Numeric} (h : n.IsExactly k x) : n.toLiteral.IsExactly k x :=
  ⟨n, h.ofLiteral?_toLiteral, h⟩

/-- An operator goes on with the number of an operand. -/
lemma bind_numeric {u : Literal} {n : Numeric} (he : e.evaluate b = .ok (.literal u))
    (hn : Numeric.ofLiteral? u = some n) (f : Term → Numeric → Except EvaluationError Term) :
    (e.evaluate b >>= fun t => t.numeric >>= f t) = f (.literal u) n := by
  have hnumeric : (Term.literal u).numeric? = some n := hn
  rw [he]
  change (Term.literal u).numeric >>= f (.literal u) = _
  unfold Term.numeric
  rw [hnumeric]
  rfl

lemma toOption_combine (op : Arithmetic) (m n : Numeric) : (combine op m n).toOption =
    match op with
    | .add => (NumericPair.promote m n).add?
    | .subtract => (NumericPair.promote m n).sub?
    | .multiply => (NumericPair.promote m n).mul?
    | .divide => (NumericPair.promote m n).div? := by
  unfold combine
  dsimp only
  split <;> next hresult => exact hresult.symm

/-- An operator reads two literals and writes one. -/
lemma evaluate_arithmetic {u v : Literal} {m n : Numeric} (hl : l.evaluate b = .ok (.literal u))
    (hr : r.evaluate b = .ok (.literal v)) (hm : Numeric.ofLiteral? u = some m)
    (hn : Numeric.ofLiteral? v = some n) : (arithmetic op l r).evaluate b =
      (combine op m n).map fun c => .literal c.toLiteral := by
  rw [evaluate, bind_numeric hl hm, bind_numeric hr hn]
  cases combine op m n <;> rfl

/-- An operator that computes an exact number from exact operands has an outcome if they have. -/
lemma HasOutcome.arithmetic (hl : HasOutcome b l k x) (hr : HasOutcome b r k' y) {z : ℚ}
    (hdenotes : Denotes b (.arithmetic op l r) (k.join k') z)
    (hop : ∀ m n, m.IsExactly k x → n.IsExactly k' y →
      Numeric.Computes (combine op m n).toOption (k.join k') z) :
    HasOutcome b (.arithmetic op l r) (k.join k') z := by
  cases hl with
  | overflow hl hover => exact .overflow (by rw [evaluate, hl]; rfl) (.left hover)
  | @value u hl hu =>
    obtain ⟨m, hm, hmx⟩ := hu
    cases hr with
    | @overflow err hr hover =>
      have herror : (Expression.arithmetic op l r).evaluate b = .error err := by
        rw [evaluate, bind_numeric hl hm, hr]
        rfl
      exact .overflow herror (.right hover)
    | value hr hv =>
      obtain ⟨n, hn, hny⟩ := hv
      have hevaluate : (Expression.arithmetic op l r).evaluate b = _ :=
        evaluate_arithmetic hl hr hm hn
      have hcomputes := hop m n hmx hny
      cases hcombine : combine op m n with
      | ok c =>
        rw [hcombine] at hevaluate hcomputes
        exact .value hevaluate (isExactly_toLiteral (hcomputes.isExactly c rfl))
      | error err =>
        rw [hcombine] at hevaluate hcomputes
        exact .overflow hevaluate (.here hdenotes (hcomputes.eq_none_iff.1 rfl))

lemma HasOutcome.plus (h : HasOutcome b e k x) : HasOutcome b (.plus e) k x := by
  cases h with
  | overflow he hover => exact .overflow (by rw [evaluate, he]; rfl) (.plus hover)
  | @value u he hu =>
    obtain ⟨n, hn, hnx⟩ := hu
    refine .value (u := u) ?_ ⟨n, hn, hnx⟩
    rw [evaluate, bind_numeric he hn]

lemma HasOutcome.minus (h : HasOutcome b e k x) (hdenotes : Denotes b (.minus e) k (-x)) :
    HasOutcome b (.minus e) k (-x) := by
  cases h with
  | overflow he hover => exact .overflow (by rw [evaluate, he]; rfl) (.minus hover)
  | @value u he hu =>
    obtain ⟨n, hn, hnx⟩ := hu
    have hcomputes := Numeric.computes_neg? hnx
    cases hneg : n.neg? with
    | some m =>
      refine .value (u := m.toLiteral) ?_ (isExactly_toLiteral (hcomputes.isExactly m hneg))
      rw [evaluate, bind_numeric he hn, hneg]
    | none =>
      have herror : (Expression.minus e).evaluate b = .error (.type .negationOverflow) := by
        rw [evaluate, bind_numeric he hn, hneg]
      exact .overflow herror (.here hdenotes (hcomputes.eq_none_iff.1 hneg))

/-! ## Whole expressions -/

/-- An expression with a value over the rational numbers has an outcome. -/
theorem hasOutcome_of_denotes (h : e.Denotes b k x) : HasOutcome b e k x := by
  induction h with
  | literal hu => exact .value (by rw [evaluate]) hu
  | var hv hu => exact .value (by rw [evaluate, hv]) hu
  | add hl hr ihl ihr =>
    refine ihl.arithmetic ihr (.add hl hr) fun m n hm hn => ?_
    rw [toOption_combine]
    exact NumericPair.computes_add? (NumericPair.isExactly_promote hm hn)
  | subtract hl hr ihl ihr =>
    refine ihl.arithmetic ihr (.subtract hl hr) fun m n hm hn => ?_
    rw [toOption_combine]
    exact NumericPair.computes_sub? (NumericPair.isExactly_promote hm hn)
  | multiply hl hr ihl ihr =>
    refine ihl.arithmetic ihr (.multiply hl hr) fun m n hm hn => ?_
    rw [toOption_combine]
    exact NumericPair.computes_mul? (NumericPair.isExactly_promote hm hn)
  | plus _ ih => exact ih.plus
  | minus h ih => exact ih.minus (.minus h)

lemma operands_of_arithmetic {t : Term} (h : (arithmetic op l r).evaluate b = .ok t) :
    (∃ u, l.evaluate b = .ok u) ∧ ∃ v, r.evaluate b = .ok v := by
  rw [evaluate] at h
  cases hl : l.evaluate b with
  | error err =>
    rw [hl] at h
    cases h
  | ok u =>
    cases hr : r.evaluate b with
    | ok v => exact ⟨⟨u, rfl⟩, ⟨v, rfl⟩⟩
    | error err =>
      rw [hl, hr] at h
      change (u.numeric.bind fun _ => .error err) = .ok t at h
      cases hu : u.numeric <;> rw [hu] at h <;> cases h

/-- What overflows has no value. -/
theorem Overflows.evaluate_ne_ok (h : e.Overflows b) (t : Term) : e.evaluate b ≠ .ok t := by
  induction h generalizing t with
  | here h hx =>
    intro ht
    cases hasOutcome_of_denotes h with
    | value _ hu =>
      obtain ⟨n, -, hn⟩ := hu
      exact hx (Numeric.represents_iff.2 ⟨n, hn⟩)
    | overflow he _ => cases ht.symm.trans he
  | left _ ih =>
    intro ht
    obtain ⟨⟨u, hu⟩, -⟩ := operands_of_arithmetic ht
    exact ih u hu
  | right _ ih =>
    intro ht
    obtain ⟨-, v, hv⟩ := operands_of_arithmetic ht
    exact ih v hv
  | @plus e _ ih | @minus e _ ih =>
    intro ht
    rw [evaluate] at ht
    cases he : e.evaluate b with
    | ok u => exact ih u he
    | error err =>
      rw [he] at ht
      cases ht

/-- **Exact evaluation.**  If an expression of sums, differences, products and signs of exact
numbers is evaluated to a term, this is a literal that is read as the value of the expression over
the rational numbers.  It is not evaluated to a term if and only if a kind is too small for the
value of one of its parts. -/
theorem evaluate_exactly (h : e.Denotes b k x) :
    (∀ t, e.evaluate b = .ok t → ∃ u, t = .literal u ∧ u.IsExactly k x ∧
      Digits.rational? u.value.toList = some x) ∧
    ((∃ err, e.evaluate b = .error err) ↔ e.Overflows b) := by
  refine ⟨fun t ht => ?_, fun ⟨err, herr⟩ => ?_, fun hover => ?_⟩
  · cases hasOutcome_of_denotes h with
    | value he hu =>
      cases ht.symm.trans he
      exact ⟨_, rfl, hu, hu.rational?_eq⟩
    | overflow he _ => cases ht.symm.trans he
  · cases hasOutcome_of_denotes h with
    | value he _ => cases herr.symm.trans he
    | overflow _ hover => exact hover
  · cases he : e.evaluate b with
    | ok t => exact absurd he (hover.evaluate_ne_ok t)
    | error err => exact ⟨err, rfl⟩

def sampleBinding : Binding := ⟨[(⟨"n"⟩, .literal (.typed "0.20" Xsd.decimal))]⟩

/-- `(?n + 0.1) * -(2)` -/
def sampleProduct : Expression :=
  .arithmetic .multiply
    (.arithmetic .add (.var ⟨"n"⟩) (.literal (.typed "0.1" Xsd.decimal)))
    (.minus (.literal (.typed "2" Xsd.integer)))

theorem evaluate_exactly_sample :
    sampleProduct.Denotes sampleBinding .decimal (-3 / 5) ∧
      ¬ sampleProduct.Overflows sampleBinding ∧
      ∃ u, sampleProduct.evaluate sampleBinding = .ok (.literal u) ∧ u.IsExactly .decimal (-3 / 5) ∧
        Digits.rational? u.value.toList = some (-3 / 5) := by
  have hn : (Literal.typed "0.20" Xsd.decimal).IsExactly .decimal
      (Decimal.toRat ⟨⟨200000000000000000, by decide⟩⟩) :=
    Literal.isExactly_decimal rfl (by decide +kernel)
  have htenth : (Literal.typed "0.1" Xsd.decimal).IsExactly .decimal
      (Decimal.toRat ⟨⟨100000000000000000, by decide⟩⟩) :=
    Literal.isExactly_decimal rfl (by decide +kernel)
  have htwo : (Literal.typed "2" Xsd.integer).IsExactly .integer (2 : Int) :=
    Literal.isExactly_integer Numeric.isInteger_integer (by decide +kernel) (by decide)
  have hdenotes : sampleProduct.Denotes sampleBinding .decimal (-3 / 5) := by
    have hvalue : ((Decimal.toRat ⟨⟨200000000000000000, by decide⟩⟩ +
        Decimal.toRat ⟨⟨100000000000000000, by decide⟩⟩) * -((2 : Int) : ℚ)) = -3 / 5 := by
      norm_num [Decimal.toRat, Decimal.places]
    rw [← hvalue]
    exact .multiply (.add (.var rfl hn) (.literal htenth)) (.minus (.literal htwo))
  obtain ⟨hok, herror⟩ := evaluate_exactly hdenotes
  have hevaluate : sampleProduct.evaluate sampleBinding =
      .ok (.literal (.typed "-0.6" Xsd.decimal)) := rfl
  obtain ⟨u, hu, hexact, htext⟩ := hok _ hevaluate
  refine ⟨hdenotes, fun hover => ?_, u, hu ▸ hevaluate, hexact, htext⟩
  obtain ⟨err, herr⟩ := herror.2 hover
  cases hevaluate.symm.trans herr

/-! ## Comparisons -/

/-- Every way to compare two expressions has a value, which is the verdict of two rational
numbers. -/
structure Compares (b : Binding) (e e' : Expression) (x y : ℚ) : Prop where
  less : (compare .less e e').evaluate b = .ok (.ofBool (decide (x < y)))
  lessOrEqual : (compare .lessOrEqual e e').evaluate b = .ok (.ofBool (decide (x ≤ y)))
  greater : (compare .greater e e').evaluate b = .ok (.ofBool (decide (y < x)))
  greaterOrEqual : (compare .greaterOrEqual e e').evaluate b = .ok (.ofBool (decide (y ≤ x)))
  equal : (equal e e').evaluate b = .ok (.ofBool (decide (x = y)))
  oneOf : (oneOf e [e']).evaluate b = .ok (.ofBool (decide (x = y)))

/-- Two literals of exact numbers are compared as rational numbers. -/
lemma compare?_of_isExactly {u v : Literal} (hu : u.IsExactly k x) (hv : v.IsExactly k' y) :
    ∃ m n, (Term.literal u).numeric? = some m ∧ (Term.literal v).numeric? = some n ∧
      m.compare? n = some (Ord.compare x y) := by
  obtain ⟨m, hm, hmx⟩ := hu
  obtain ⟨n, hn, hny⟩ := hv
  exact ⟨m, n, hm, hn, NumericPair.compare?_eq_some (NumericPair.isExactly_promote hmx hny)⟩

lemma order_of_isExactly {u v : Literal} (hu : u.IsExactly k x) (hv : v.IsExactly k' y) :
    (Term.literal u).order (.literal v) = .ok (Ord.compare x y) := by
  obtain ⟨m, n, hm, hn, hcompare⟩ := compare?_of_isExactly hu hv
  unfold Term.order
  rw [hm, hn]
  dsimp only
  rw [hcompare]

lemma equals_of_isExactly {u v : Literal} (hu : u.IsExactly k x) (hv : v.IsExactly k' y) :
    (Term.literal u).equals (.literal v) = decide (x = y) := by
  obtain ⟨m, n, hm, hn, hcompare⟩ := compare?_of_isExactly hu hv
  unfold Term.equals
  rw [hm, hn]
  dsimp only
  rw [hcompare, Bool.eq_iff_iff, beq_iff_eq, Option.some_inj, compare_eq_iff_eq, decide_eq_true_iff]

lemma compareKeys_of_isExactly {u v : Literal} (hu : u.IsExactly k x) (hv : v.IsExactly k' y) :
    Term.compareKeys (some (.literal u)) (some (.literal v)) = Ord.compare x y := by
  obtain ⟨m, n, hm, hn, hcompare⟩ := compare?_of_isExactly hu hv
  unfold Term.compareKeys
  rw [Option.bind_some, Option.bind_some, hm, hn]
  dsimp only
  rw [hcompare, Option.getD_some]

lemma membership_singleton (t t' : Term) :
    membership t none [.ok t'] = .ok (t.equals t') := by
  rw [membership, membership]
  cases t.equals t' <;> rfl

lemma accepts_compare (c : Comparison) (x y : ℚ) : c.accepts (Ord.compare x y) =
    match c with
    | .less => decide (x < y)
    | .lessOrEqual => decide (x ≤ y)
    | .greater => decide (y < x)
    | .greaterOrEqual => decide (y ≤ x) := by
  rw [Bool.eq_iff_iff]
  cases c with
  | less => simp [Comparison.accepts, compare_lt_iff_lt]
  | lessOrEqual => simp [Comparison.accepts, compare_gt_iff_gt]
  | greater => simp [Comparison.accepts, compare_gt_iff_gt]
  | greaterOrEqual => simp [Comparison.accepts, compare_lt_iff_lt]

section

variable {u v : Literal} (hl : l.evaluate b = .ok (.literal u))
  (hr : r.evaluate b = .ok (.literal v)) (hu : u.IsExactly k x) (hv : v.IsExactly k' y)

include hl hr hu hv

lemma evaluate_compare (c : Comparison) : (compare c l r).evaluate b =
    .ok (.ofBool (c.accepts (Ord.compare x y))) := by
  rw [evaluate, hl, hr]
  change ((Term.literal u).order (.literal v)).bind _ = _
  rw [order_of_isExactly hu hv]
  rfl

lemma evaluate_equal : (equal l r).evaluate b = .ok (.ofBool (decide (x = y))) := by
  rw [← equals_of_isExactly hu hv, evaluate, hl, hr]
  rfl

lemma evaluate_oneOf : (oneOf l [r]).evaluate b = .ok (.ofBool (decide (x = y))) := by
  rw [evaluate, evaluateAll, evaluateAll, hl, hr, ← equals_of_isExactly hu hv]
  exact congrArg (Except.map Term.ofBool) (membership_singleton _ _)

/-- All comparisons have the verdict of the rational numbers. -/
lemma compares_of_isExactly : Compares b l r x y where
  less := by rw [evaluate_compare hl hr hu hv, accepts_compare]
  lessOrEqual := by rw [evaluate_compare hl hr hu hv, accepts_compare]
  greater := by rw [evaluate_compare hl hr hu hv, accepts_compare]
  greaterOrEqual := by rw [evaluate_compare hl hr hu hv, accepts_compare]
  equal := evaluate_equal hl hr hu hv
  oneOf := evaluate_oneOf hl hr hu hv

end

/-- **Exact comparison.**  If two expressions are evaluated to literals of integers or decimals,
all comparisons of them have a value, and this is what the rational numbers say that the lexical
forms denote.  The order of the two literals as keys is the same. -/
theorem compares_exactly {u v : Literal} (hl : l.evaluate b = .ok (.literal u))
    (hr : r.evaluate b = .ok (.literal v)) (hu : u.IsExactly k x) (hv : v.IsExactly k' y) :
    Digits.rational? u.value.toList = some x ∧ Digits.rational? v.value.toList = some y ∧
      Compares b l r x y ∧
      Term.compareKeys (some (.literal u)) (some (.literal v)) = Ord.compare x y := by
  have hcompares : Compares b l r x y := compares_of_isExactly hl hr hu hv
  exact ⟨hu.rational?_eq, hv.rational?_eq, hcompares, compareKeys_of_isExactly hu hv⟩

theorem compares_exactly_sample :
    (Literal.typed "+007.50" Xsd.decimal).IsExactly .decimal (15 / 2) ∧
      (Literal.typed "7" (.xsd "byte")).IsExactly .integer 7 ∧
      Compares .empty (.literal (.typed "+007.50" Xsd.decimal))
        (.literal (.typed "7" (.xsd "byte"))) (15 / 2) 7 := by
  have hdecimal : (Literal.typed "+007.50" Xsd.decimal).IsExactly .decimal
      (Decimal.toRat ⟨⟨7500000000000000000, by decide⟩⟩) :=
    Literal.isExactly_decimal rfl (by decide +kernel)
  have hbyte : (Literal.typed "7" (.xsd "byte")).IsExactly .integer (7 : Int) :=
    Literal.isExactly_integer (by decide +kernel) (by decide +kernel) (by decide)
  have hvalue : Decimal.toRat ⟨⟨7500000000000000000, by decide⟩⟩ = 15 / 2 := by
    norm_num [Decimal.toRat, Decimal.places]
  rw [hvalue] at hdecimal
  exact ⟨hdecimal, hbyte, (compares_exactly (b := .empty) rfl rfl hdecimal hbyte).2.2.1⟩

end Expression

end SparqlStream
