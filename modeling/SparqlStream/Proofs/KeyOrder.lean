import Mathlib.Tactic
import SparqlStream.Proofs.Answers
import SparqlStream.Proofs.FloatOrder

/-!
# The order of keys

Two keys are compared by one of four rules: exactly, if both are integers or decimals; in single or
in double precision, if a float or a double is among them; and by their lexical forms, if one of
them is no number or has no order.  Each rule is an order: it compares the ranks of the keys.  The
rules do not fit together.  Of the integers 9 and 10 the first one is smaller, but the text `1z`
lies between `10` and `9`; and integers that differ may be rounded to the same float.

So a key is equal to itself, and two keys that are exchanged compare the other way, but three keys
are in order only if one rule compares all of them.  Two floats are also compared as if they were
doubles, as double precision keeps their values.

A sorter that works with such a comparison leaves neighbours in order.  It leaves all rows in order
if one rule compares their keys: `Query.delivers_inOrder`.
-/

namespace SparqlStream

/-- How two keys are compared. -/
inductive KeyRule where
  | lexical
  | exact
  | single
  | double
  deriving DecidableEq, Repr

/-! ## Numbers -/

namespace Numeric

/-- The rule by which two numbers are compared, if they have an order. -/
def rule : Numeric → Numeric → KeyRule
  | double _, _ | _, double _ => .double
  | single _, _ | _, single _ => .single
  | _, _ => .exact

/-- A number as a rule sees it.  Exactly, it is a number of units of a decimal; in one of the other
two precisions it is a number of units of a double, unless it is none. -/
def rank : KeyRule → Numeric → Option Int
  | .lexical, _ => none
  | .exact, integer i => some (i.toInt * Decimal.one)
  | .exact, decimal d => some d.scaled.toInt
  | .exact, _ => none
  | .single, integer i => (binaryOfSingle (singleOfInteger i)).units?
  | .single, decimal d => (binaryOfSingle (singleOfDecimal d)).units?
  | .single, single x => (binaryOfSingle x).units?
  | .single, double _ => none
  | .double, x => (binaryOfDouble x.toDouble).units?

lemma rule_comm (x y : Numeric) : x.rule y = y.rule x := by
  cases x <;> cases y <;> rfl

lemma rule_ne_lexical (x y : Numeric) : x.rule y ≠ .lexical := by
  cases x <;> cases y <;> exact fun h => nomatch h

lemma compare_mul_one (a b : Int) : compare (a * Decimal.one) (b * Decimal.one) = compare a b := by
  have hmono : StrictMono fun i : Int => i * Decimal.one :=
    strictMono_mul_right_of_pos (by decide)
  exact ((cmp_eq_compare _ _).symm.trans (hmono.cmp_map_eq a b)).trans (cmp_eq_compare a b)

/-- Numbers are compared by their ranks. -/
lemma compare?_eq (x y : Numeric) :
    x.compare? y = Option.map₂ compare (x.rank (x.rule y)) (y.rank (x.rule y)) := by
  rw [Numeric.compare?]
  cases x <;> cases y <;> simp only [NumericPair.promote, rule, rank, NumericPair.compare?_single,
    NumericPair.compare?_double, toDouble]
  · exact congrArg some (compare_mul_one _ _).symm
  · rfl
  · rfl
  · rfl

/-- Two floats also compare like doubles. -/
lemma compare?_singles (x y : Float32) : (single x).compare? (single y) =
    Option.map₂ compare ((single x).rank .double) ((single y).rank .double) := by
  rw [rank, rank, units?_toDouble, units?_toDouble]
  exact NumericPair.compare?_single x y

lemma map₂_compare_swap (i j : Option Int) :
    Option.map₂ compare j i = (Option.map₂ compare i j).map Ordering.swap := by
  cases i <;> cases j
  · rfl
  · rfl
  · rfl
  · exact congrArg some Std.OrientedOrd.eq_swap

lemma compare?_swap (x y : Numeric) : y.compare? x = (x.compare? y).map Ordering.swap := by
  rw [compare?_eq, compare?_eq, rule_comm, map₂_compare_swap]

lemma compare?_self (x : Numeric) : x.compare? x = none ∨ x.compare? x = some .eq := by
  rw [compare?_eq]
  cases x.rank (x.rule x) with
  | none => exact .inl rfl
  | some i => exact .inr (congrArg some Std.ReflOrd.compare_self)

end Numeric

/-! ## Keys -/

namespace Term

/-- The rule by which two keys are compared. -/
def keyRule (a b : Option Term) : KeyRule :=
  match a.bind numeric?, b.bind numeric? with
  | some x, some y => if (x.compare? y).isSome then x.rule y else .lexical
  | _, _ => .lexical

/-- Whether a key is a float. -/
def isFloat (a : Option Term) : Bool :=
  match a.bind numeric? with
  | some (.single _) => true
  | _ => false

/-- A key as a rule sees it, if the rule compares numbers. -/
def keyRank (r : KeyRule) (a : Option Term) : Option Int :=
  (a.bind numeric?).bind (Numeric.rank r)

variable {a b : Option Term}

lemma compareKeys_of_lexical (h : keyRule a b = .lexical) :
    compareKeys a b = compare (keyForm a) (keyForm b) := by
  rw [keyRule] at h
  rw [compareKeys]
  cases ha : a.bind numeric? with
  | none => rfl
  | some x =>
    cases hb : b.bind numeric? with
    | none => rfl
    | some y =>
      rw [ha, hb] at h
      dsimp only at h ⊢
      split at h
      · exact absurd h (Numeric.rule_ne_lexical x y)
      · next hnone =>
        rw [Bool.not_eq_true, Option.isSome_eq_false_iff, Option.isNone_iff_eq_none] at hnone
        rw [hnone]
        rfl

/-- Keys that are not compared by their lexical forms are numbers that have an order. -/
lemma exists_numbers (h : keyRule a b ≠ .lexical) :
    ∃ x y, a.bind numeric? = some x ∧ b.bind numeric? = some y ∧ (x.compare? y).isSome = true ∧
      keyRule a b = x.rule y := by
  rw [keyRule] at h ⊢
  cases ha : a.bind numeric? with
  | none =>
    rw [ha] at h
    exact absurd rfl h
  | some x =>
    cases hb : b.bind numeric? with
    | none =>
      rw [ha, hb] at h
      exact absurd rfl h
    | some y =>
      rw [ha, hb] at h
      dsimp only at h ⊢
      split at h
      · next hsome => exact ⟨x, y, rfl, rfl, hsome, if_pos hsome⟩
      · exact absurd rfl h

/-- A key is equal to itself. -/
theorem compareKeys_self (a : Option Term) : compareKeys a a = .eq := by
  rw [compareKeys]
  cases a.bind numeric? with
  | none => exact Std.ReflOrd.compare_self
  | some x =>
    dsimp only
    rcases x.compare?_self with hnone | heq
    · rw [hnone]
      exact Std.ReflOrd.compare_self
    · rw [heq]
      rfl

/-- Two keys that are exchanged compare the other way. -/
theorem compareKeys_swap (a b : Option Term) : compareKeys b a = (compareKeys a b).swap := by
  have hlexical : compare (keyForm b) (keyForm a) = (compare (keyForm a) (keyForm b)).swap :=
    Std.OrientedOrd.eq_swap
  rw [compareKeys, compareKeys, hlexical]
  cases a.bind numeric? with
  | none => cases b.bind numeric? <;> rfl
  | some x =>
    cases b.bind numeric? with
    | none => rfl
    | some y =>
      dsimp only
      rw [x.compare?_swap y]
      cases x.compare? y <;> rfl

end Term

namespace KeyRule

open Term

/-- A rule covers two keys if they are compared by it.  What compares doubles also covers two
floats. -/
def Covers (r : KeyRule) (a b : Option Term) : Prop :=
  keyRule a b = r ∨ r = .double ∧ keyRule a b = .single ∧ isFloat a = true ∧ isFloat b = true

instance (r : KeyRule) (a b : Option Term) : Decidable (r.Covers a b) :=
  inferInstanceAs (Decidable (_ ∨ _))

/-- The order of two keys by a rule. -/
def order (r : KeyRule) (a b : Option Term) : Ordering :=
  if r = .lexical then compare (keyForm a) (keyForm b) else compare (keyRank r a) (keyRank r b)

variable {r : KeyRule} {a b c : Option Term}

lemma order_self (r : KeyRule) (a : Option Term) : r.order a a = .eq := by
  rw [order]
  split <;> exact Std.ReflOrd.compare_self

lemma order_swap (r : KeyRule) (a b : Option Term) : r.order b a = (r.order a b).swap := by
  rw [order, order]
  split <;> exact Std.OrientedOrd.eq_swap

/-- Each rule is an order on all keys. -/
lemma order_trans (hab : (r.order a b).isLE = true) (hbc : (r.order b c).isLE = true) :
    (r.order a c).isLE = true := by
  rw [order] at hab hbc ⊢
  split at hab
  · next hlexical =>
    rw [if_pos hlexical] at hbc ⊢
    exact Std.TransOrd.isLE_trans hab hbc
  · next hnumeric =>
    rw [if_neg hnumeric] at hbc ⊢
    exact Std.TransOrd.isLE_trans hab hbc

/-- Numbers that have an order are compared by their ranks. -/
lemma compareKeys_of_rank {x y : Numeric} (ha : a.bind numeric? = some x)
    (hb : b.bind numeric? = some y) (hsome : (x.compare? y).isSome = true) (hr : r ≠ .lexical)
    (hcompare : x.compare? y = Option.map₂ compare (x.rank r) (y.rank r)) :
    compareKeys a b = r.order a b := by
  rw [order, if_neg hr, keyRank, keyRank, compareKeys, ha, hb]
  dsimp only
  rw [hcompare] at hsome ⊢
  rw [Option.bind_some, Option.bind_some]
  cases hi : x.rank r with
  | none =>
    rw [hi] at hsome
    cases hsome
  | some i =>
    cases hj : y.rank r with
    | none =>
      rw [hi, hj] at hsome
      cases hsome
    | some j => rfl

/-- Keys are compared by the rules that cover them. -/
theorem Covers.compareKeys_eq (h : r.Covers a b) : compareKeys a b = r.order a b := by
  by_cases hlexical : keyRule a b = .lexical
  · obtain rfl : r = .lexical := by
      rcases h with h | ⟨-, h, -⟩
      · rw [← h, hlexical]
      · rw [hlexical] at h
        cases h
    rw [order, if_pos rfl, compareKeys_of_lexical hlexical]
  · obtain ⟨x, y, ha, hb, hsome, hrule⟩ := exists_numbers hlexical
    rcases h with h | ⟨rfl, -, hfloat, hfloat'⟩
    · obtain rfl : x.rule y = r := hrule.symm.trans h
      rw [hrule] at hlexical
      exact compareKeys_of_rank ha hb hsome hlexical (x.compare?_eq y)
    · rw [isFloat, ha] at hfloat
      rw [isFloat, hb] at hfloat'
      cases x <;> cases hfloat
      cases y <;> cases hfloat'
      exact compareKeys_of_rank ha hb hsome (by decide) (Numeric.compare?_singles _ _)

/-- Three keys are in order if one rule covers each two of them. -/
lemma Covers.trans (hab : r.Covers a b) (hbc : r.Covers b c) (hac : r.Covers a c)
    (hle : (compareKeys a b).isLE = true) (hle' : (compareKeys b c).isLE = true) :
    (compareKeys a c).isLE = true := by
  rw [hab.compareKeys_eq] at hle
  rw [hbc.compareKeys_eq] at hle'
  rw [hac.compareKeys_eq]
  exact order_trans hle hle'

end KeyRule

/-! ## Bindings -/

namespace OrderKey

variable {eval : Evaluator} {key : OrderKey} {B : List Binding} {r : KeyRule}

lemma compare_swap (eval : Evaluator) (key : OrderKey) (a b : Binding) :
    key.compare eval b a = (key.compare eval a b).swap := by
  rw [compare, compare, Term.compareKeys_swap]
  cases key.descending <;> rfl

/-- The order of two bindings by a key that a rule compares. -/
def orderBy (eval : Evaluator) (key : OrderKey) (r : KeyRule) (a b : Binding) : Ordering :=
  let o := r.order (key.expression.keyValue eval a) (key.expression.keyValue eval b)
  if key.descending then o.swap else o

/-- Two keys that one rule covers are compared by it, and so are they if they are exchanged. -/
lemma compare_eq_orderBy {a b : Binding}
    (h : r.Covers (key.expression.keyValue eval a) (key.expression.keyValue eval b)) :
    key.compare eval a b = key.orderBy eval r a b ∧
      key.compare eval b a = key.orderBy eval r b a := by
  rw [compare_swap eval key a b, compare, orderBy, orderBy, h.compareKeys_eq, KeyRule.order_swap]
  cases key.descending <;> simp

lemma orderBy_trans {a b c : Binding} (hab : (key.orderBy eval r a b).isLE = true)
    (hbc : (key.orderBy eval r b c).isLE = true) : (key.orderBy eval r a c).isLE = true := by
  rw [orderBy] at hab hbc ⊢
  cases hdescending : key.descending with
  | false =>
    rw [hdescending] at hab hbc
    exact KeyRule.order_trans hab hbc
  | true =>
    rw [hdescending, if_pos rfl, ← KeyRule.order_swap] at hab hbc
    rw [if_pos rfl, ← KeyRule.order_swap]
    exact KeyRule.order_trans hbc hab

/-- If one rule covers each two keys of some bindings, the key orders these bindings. -/
theorem totalPreorderOn_of_covers (h : B.Pairwise fun a b =>
      r.Covers (key.expression.keyValue eval a) (key.expression.keyValue eval b)) :
    TotalPreorderOn (key.compare eval) B := by
  let R : Binding → Binding → Prop := fun a b =>
    key.compare eval a b = key.orderBy eval r a b ∧ key.compare eval b a = key.orderBy eval r b a
  have hsymm : Std.Symm R := ⟨fun a b hab => hab.symm⟩
  have hself : ∀ a ∈ B, R a a := by
    intro a _
    have heq : key.compare eval a a = key.orderBy eval r a a := by
      rw [compare, orderBy, Term.compareKeys_self, KeyRule.order_self]
    exact ⟨heq, heq⟩
  have hall := (h.imp compare_eq_orderBy).forall_of_forall hself
  refine ⟨fun a _ b _ => compare_swap eval key a b, fun a ha b hb c hc hab hbc => ?_⟩
  rw [(hall ha hb).1] at hab
  rw [(hall hb hc).1] at hbc
  rw [(hall ha hc).1]
  exact orderBy_trans hab hbc

end OrderKey

/-! ## Rows -/

namespace Query

/-- What is selected of some rows comes from a part of what the rows are made of. -/
lemma exists_selected {α β : Type} (q : Query) (key : α → String) (f : β → α) (l : List β) :
    ∃ l', q.selected key (l.map f) = l'.map f ∧ l'.Sublist l ∧
      (q.distinct = false → l' = (Slice.mk q.offset q.limit).part l) := by
  rw [selected]
  cases q.distinct with
  | false =>
    exact ⟨_, Slice.part_map _ f l, Slice.part_sublist _ l, fun _ => rfl⟩
  | true =>
    have hsublist := (Slice.part_sublist ⟨q.offset, q.limit⟩ _).trans (firsts_sublist key (l.map f))
    obtain ⟨l', hl', heq⟩ := List.sublist_map_iff.1 hsublist
    exact ⟨l', heq, hl', fun h => absurd h (by decide)⟩

/-- **Rows in order.**  A key is equal to itself, two keys that are exchanged compare the other way,
and three keys are in order if one rule covers each two of them.  So a table that is ordered by one
key and without a window shows bindings of its groups such that no key is greater than the next one,
unless repetitions are removed.  If one rule covers each two keys, then no key is greater than any
later one, whether or not repetitions are removed. -/
theorem delivers_inOrder :
    (∀ a, Term.compareKeys a a = .eq) ∧
    (∀ a b, Term.compareKeys b a = (Term.compareKeys a b).swap) ∧
    (∀ (r : KeyRule) (a b c : Option Term), r.Covers a b → r.Covers b c → r.Covers a c →
      (Term.compareKeys a b).isLE = true → (Term.compareKeys b c).isLE = true →
        (Term.compareKeys a c).isLE = true) ∧
    ∀ {μ : Type} [Operator μ Binding Binding ResultsError] (q : Query) (s : Selection)
      (key : OrderKey) (matchers : MatcherSupply μ) (options : RunOptions) (mayWait : Bool)
      (B : List Binding) (t : Pipeline μ),
      q.form = .select s → q.order = [key] → options.window = none →
      Flow.Delivers mayWait (Pipeline.ofGroups matchers options.evaluator q.allGroups).1 B t →
      ∃ (shown : List Binding) (t' : RunningResults μ),
        Flow.Delivers mayWait (q.run matchers options).1
          (shown.map fun b => .solution ((Projection.mk s).solution b)) t' ∧
        shown.Subperm B ∧
        (q.distinct = false → q.offset = 0 → q.limit = none → shown.Perm B) ∧
        (q.distinct = false →
          shown.IsChain fun a b => key.compare options.evaluator a b ≠ .gt) ∧
        ∀ r : KeyRule, (B.Pairwise fun a b => r.Covers
            (key.expression.keyValue options.evaluator a)
            (key.expression.keyValue options.evaluator b)) →
          shown.Pairwise fun a b => key.compare options.evaluator a b ≠ .gt := by
  refine ⟨Term.compareKeys_self, Term.compareKeys_swap,
    fun r a b c hab hbc hac => hab.trans hbc hac, ?_⟩
  intro μ _ q s key matchers options mayWait B t hform horder hwindow hB
  obtain ⟨B', t', hB', hperm, hchain, hsorted⟩ :=
    Pipeline.exists_delivers_sorted (OrderKey.compare_swap options.evaluator key) hB
  have hbindings : (q.bindings matchers options).1 =
      (Pipeline.ofGroups matchers options.evaluator q.allGroups).1.orderBy options.evaluator none
        key := by
    rw [bindings, horder, hwindow]
    rfl
  rw [← hbindings] at hB'
  obtain ⟨t₁, h₁⟩ := q.delivers_select hform hB'
  obtain ⟨shown, hshown, hsublist, hpart⟩ :=
    q.exists_selected (fun r => sha1 r.key) (Projection.mk s).solution B'
  rw [hshown, List.map_map] at h₁
  refine ⟨shown, t₁, h₁, hsublist.subperm.trans hperm.subperm, fun hdistinct hoffset hlimit => ?_,
    fun hdistinct => ?_, fun r hr => ?_⟩
  · rw [hpart hdistinct, hoffset, hlimit, Slice.part_whole]
    exact hperm
  · rw [hpart hdistinct]
    exact Slice.isChain_part _ hchain
  · exact (hsorted (OrderKey.totalPreorderOn_of_covers hr)).sublist hsublist

/-- Two who are 9 and 10, and somebody else. -/
def agesGraph (age : Literal) : Graph :=
  .ofList [⟨.iri ⟨"a"⟩, ⟨"age"⟩, .literal (.typed "9" Xsd.integer)⟩,
    ⟨.iri ⟨"b"⟩, ⟨"age"⟩, .literal (.typed "10" Xsd.integer)⟩,
    ⟨.iri ⟨"c"⟩, ⟨"age"⟩, .literal age⟩]

/-- The ages in their order. -/
def agesSample : Query where
  form := .select (.columns [⟨"age"⟩])
  groups := [.pattern [⟨.var ⟨"x"⟩, .iri ⟨"age"⟩, .var ⟨"age"⟩⟩]]
  order := [⟨.var ⟨"age"⟩, false⟩]
  offset := 0
  limit := none
  distinct := false

/-- The ages as they are found. -/
def agesBindings (age : Literal) : List Binding :=
  [⟨[(⟨"x"⟩, .iri ⟨"a"⟩), (⟨"age"⟩, .literal (.typed "9" Xsd.integer))]⟩,
    ⟨[(⟨"x"⟩, .iri ⟨"b"⟩), (⟨"age"⟩, .literal (.typed "10" Xsd.integer))]⟩,
    ⟨[(⟨"x"⟩, .iri ⟨"c"⟩), (⟨"age"⟩, .literal age)]⟩]

theorem delivers_inOrder_sample :
    (∃ t, Flow.Delivers false (Pipeline.ofGroups
      (agesGraph (.typed "9.5" Xsd.decimal)).index.matchers RunOptions.standard.evaluator
        agesSample.allGroups).1 (agesBindings (.typed "9.5" Xsd.decimal)) t) ∧
      ((agesBindings (.typed "9.5" Xsd.decimal)).Pairwise fun a b => KeyRule.exact.Covers
        ((Expression.var ⟨"age"⟩).keyValue Expression.evaluate a)
        ((Expression.var ⟨"age"⟩).keyValue Expression.evaluate b)) ∧
      (∃ (shown : List Binding) (t : RunningResults Search),
        Flow.Delivers false (agesSample.run
          (agesGraph (.typed "9.5" Xsd.decimal)).index.matchers .standard).1
            (shown.map fun b => .solution (.ofColumns [⟨"age"⟩] b)) t ∧
        shown.Perm (agesBindings (.typed "9.5" Xsd.decimal)) ∧
        shown.Pairwise fun a b =>
          OrderKey.compare Expression.evaluate ⟨.var ⟨"age"⟩, false⟩ a b ≠ .gt) ∧
      (Term.compareKeys (some (.literal (.typed "9" Xsd.integer)))
        (some (.literal (.typed "10" Xsd.integer)))).isLE = true := by
  have hB : ∃ t, Flow.Delivers false (Pipeline.ofGroups
      (agesGraph (.typed "9.5" Xsd.decimal)).index.matchers RunOptions.standard.evaluator
        agesSample.allGroups).1 (agesBindings (.typed "9.5" Xsd.decimal)) t :=
    Flow.delivers_of_collect 40 (by decide +kernel)
  have hcovers : (agesBindings (.typed "9.5" Xsd.decimal)).Pairwise fun a b =>
      KeyRule.exact.Covers ((Expression.var ⟨"age"⟩).keyValue Expression.evaluate a)
        ((Expression.var ⟨"age"⟩).keyValue Expression.evaluate b) := by decide +kernel
  obtain ⟨-, -, htrans, hrun⟩ := delivers_inOrder
  obtain ⟨t, ht⟩ := hB
  obtain ⟨shown, t', hshown, -, hperm, -, hsorted⟩ := hrun agesSample (.columns [⟨"age"⟩])
    ⟨.var ⟨"age"⟩, false⟩ (agesGraph (.typed "9.5" Xsd.decimal)).index.matchers .standard false
    (agesBindings (.typed "9.5" Xsd.decimal)) t rfl rfl rfl ht
  exact ⟨⟨t, ht⟩, hcovers, ⟨shown, t', hshown, hperm rfl rfl rfl, hsorted .exact hcovers⟩,
    htrans .exact _ (some (.literal (.typed "9.5" Xsd.decimal))) _ (by decide +kernel)
      (by decide +kernel) (by decide +kernel) (by decide +kernel) (by decide +kernel)⟩

/-- Two rules do not fit together: 9 is smaller than 10, the text `1z` is greater than 10, and 9 is
greater than the text.  So the text is shown first, although it is greater than what comes last. -/
theorem delivers_outOfOrder :
    Term.compareKeys (some (.literal (.typed "9" Xsd.integer)))
        (some (.literal (.typed "10" Xsd.integer))) = .lt ∧
      Term.compareKeys (some (.literal (.typed "10" Xsd.integer)))
        (some (.literal (.simple "1z"))) = .lt ∧
      Term.compareKeys (some (.literal (.typed "9" Xsd.integer)))
        (some (.literal (.simple "1z"))) = .gt ∧
      ∃ t, Flow.Delivers false
        (agesSample.run (agesGraph (.simple "1z")).index.matchers .standard).1
        [.solution ⟨[(⟨"age"⟩, some (.literal (.simple "1z")))]⟩,
          .solution ⟨[(⟨"age"⟩, some (.literal (.typed "9" Xsd.integer)))]⟩,
          .solution ⟨[(⟨"age"⟩, some (.literal (.typed "10" Xsd.integer)))]⟩] t :=
  ⟨by decide +kernel, by decide +kernel, by decide +kernel,
    Flow.delivers_of_collect 40 (by decide +kernel)⟩

end Query

end SparqlStream
