import Mathlib.Tactic
import SparqlStream.Numeric.Basic

/-!
# Exact numbers

Integers and decimals are rational numbers: `Numeric.IsExactly` says which one a number is, and of
which of the two kinds it is.  A kind holds the rational numbers that its words can express, so an
operation can do no more than find the exact result if the kind of the result holds it.  This is
what addition, subtraction, multiplication and negation do: `Numeric.computes_exactly`.

For sums and differences this is the arithmetic of words, since decimals share one scale.  A product
of decimals has to lose a scale, and it is lost before the factors are multiplied: `cancel` takes as
many twos and fives out of the left factor as it can, and the others out of the right one.  What
remains of a prime in the end cannot divide the product of what remains of the factors, so nothing
is refused that could be written down (`Decimal.mul?_eq_some_iff`).

A quotient is not exact.  It is computed with more or with fewer than eighteen digits, depending on
how far the operands can be shifted, and cut off twice.  Cutting off twice is the same as cutting
off once (`tdiv_tdiv`).
-/

namespace SparqlStream

/-! ## Cutting off fractions -/

/-- A rational number without its fraction. -/
def towardsZero (x : ℚ) : Int := if 0 ≤ x then ⌊x⌋ else ⌈x⌉

lemma towardsZero_neg (x : ℚ) : towardsZero (-x) = -towardsZero x := by
  unfold towardsZero
  rcases lt_trichotomy x 0 with hx | rfl | hx
  · rw [if_pos (by linarith), if_neg (by linarith), Int.floor_neg]
  · simp
  · rw [if_neg (by linarith), if_pos (by linarith), Int.ceil_neg]

lemma towardsZero_div_nat (m n : ℕ) : towardsZero ((m : ℚ) / n) = ((m / n : ℕ) : Int) := by
  have hnonneg : (0 : ℚ) ≤ (m : ℚ) / n := by positivity
  rw [towardsZero, if_pos hnonneg]
  exact Rat.floor_natCast_div_natCast m n

/-- The quotient of two integers without its fraction. -/
lemma towardsZero_div (a b : Int) : towardsZero ((a : ℚ) / b) = a.tdiv b := by
  obtain ⟨m, rfl | rfl⟩ := a.eq_nat_or_neg <;> obtain ⟨n, rfl | rfl⟩ := b.eq_nat_or_neg <;>
    push_cast <;>
    simp only [neg_div, div_neg, neg_neg, towardsZero_neg, towardsZero_div_nat, Int.neg_tdiv,
      Int.tdiv_neg, Int.ofNat_tdiv]

/-- Fractions that are cut off one after the other might as well be cut off at once. -/
lemma tdiv_tdiv (a b c : Int) : (a.tdiv b).tdiv c = a.tdiv (b * c) := by
  obtain ⟨m, rfl | rfl⟩ := a.eq_nat_or_neg <;> obtain ⟨n, rfl | rfl⟩ := b.eq_nat_or_neg <;>
    obtain ⟨k, rfl | rfl⟩ := c.eq_nat_or_neg <;>
    simp only [Int.neg_tdiv, Int.tdiv_neg, neg_mul, mul_neg, neg_neg, ← Int.natCast_mul,
      ← Int.ofNat_tdiv, Nat.div_div_eq_div_mul]

namespace Decimal

/-! ## Decimals as rational numbers -/

/-- The rational number that a decimal is. -/
def toRat (d : Decimal) : ℚ := d.scaled.toInt / 10 ^ places

lemma cast_one : ((one : Int) : ℚ) = 10 ^ places := by
  have hpow : one = 10 ^ places := rfl
  rw [hpow]
  push_cast
  rfl

lemma ten_pow_pos : (0 : ℚ) < 10 ^ places := by positivity

lemma toRat_ofInteger (i : Signed 64) : (ofInteger i).toRat = i.toInt := by
  have hscaled : (ofInteger i).scaled.toInt = i.toInt * one := rfl
  rw [toRat, hscaled, Int.cast_mul, cast_one]
  exact mul_div_cancel_right₀ _ ten_pow_pos.ne'

lemma toRat_eq_iff {d : Decimal} {x : ℚ} : d.toRat = x ↔ (d.scaled.toInt : ℚ) = x * 10 ^ places :=
  div_eq_iff ten_pow_pos.ne'

lemma ofScaled?_eq_some {i : Int} {d : Decimal} : ofScaled? i = some d ↔ d.scaled.toInt = i := by
  rw [ofScaled?, Option.map_eq_some_iff]
  constructor
  · rintro ⟨s, hs, rfl⟩
    exact Signed.ofInt?_eq_some.1 hs
  · rintro rfl
    exact ⟨d.scaled, Signed.ofInt?_toInt _, rfl⟩

/-! ## Products -/

/-- What is cancelled is a factor, and if less than all is cancelled, nothing more could be. -/
lemma cancel_spec {p : Int} {k k' : ℕ} {a a' : Int} (h : cancel p k a = (a', k')) :
    k' ≤ k ∧ a = a' * p ^ (k - k') ∧ (k' = 0 ∨ ¬ p ∣ a') := by
  induction k generalizing a with
  | zero =>
    cases h
    exact ⟨le_rfl, by simp, .inl rfl⟩
  | succ k ih =>
    rw [cancel] at h
    split at h
    · next hmod =>
      obtain ⟨hle, heq, hrest⟩ := ih h
      refine ⟨Nat.le_succ_of_le hle, ?_, hrest⟩
      calc a = a.tdiv p * p := (Int.tdiv_mul_cancel (Int.dvd_of_emod_eq_zero hmod)).symm
        _ = a' * p ^ (k - k') * p := by rw [← heq]
        _ = a' * p ^ (k + 1 - k') := by rw [Nat.succ_sub hle, pow_succ, mul_assoc]
    · next hmod =>
      cases h
      exact ⟨le_rfl, by simp, .inr fun hdvd => hmod (Int.emod_eq_zero_of_dvd hdvd)⟩

/-- What is left of a power after it has been cancelled from two factors.  If this is something, the
base divides neither of what remains of the factors. -/
lemma cancelBoth_spec (p : Int) (k : ℕ) (a b : Int) :
    ∃ x y rest, a * b = x * y * p ^ (k - rest) ∧ rest ≤ k ∧
      (rest = 0 ∧ cancelBoth p k a b = some (x, y) ∨
        rest ≠ 0 ∧ cancelBoth p k a b = none ∧ ¬ p ∣ x ∧ ¬ p ∣ y) := by
  obtain ⟨x, k', hx⟩ : ∃ x k', cancel p k a = (x, k') := ⟨_, _, rfl⟩
  obtain ⟨y, rest, hy⟩ : ∃ y rest, cancel p k' b = (y, rest) := ⟨_, _, rfl⟩
  obtain ⟨hle, haeq, hdvd⟩ := cancel_spec hx
  obtain ⟨hle', hbeq, hdvd'⟩ := cancel_spec hy
  have hprod : a * b = x * y * p ^ (k - rest) := by
    rw [haeq, hbeq]
    calc x * p ^ (k - k') * (y * p ^ (k' - rest))
        = x * y * (p ^ (k - k') * p ^ (k' - rest)) := by ring
      _ = x * y * p ^ (k - rest) := by rw [← pow_add, Nat.sub_add_sub_cancel hle hle']
  refine ⟨x, y, rest, hprod, hle'.trans hle, ?_⟩
  unfold cancelBoth
  rw [hx]
  dsimp only
  rw [hy]
  by_cases hrest : rest = 0
  · subst hrest
    exact .inl ⟨rfl, rfl⟩
  · have hk' : k' ≠ 0 := by omega
    refine .inr ⟨hrest, ?_, hdvd.resolve_left hk', hdvd'.resolve_left hrest⟩
    split
    · next hpair =>
      cases hpair
      exact absurd rfl hrest
    · rfl

lemma mul_eq_of_cancelBoth {p : Int} {k : ℕ} {a b x y : Int}
    (h : cancelBoth p k a b = some (x, y)) : a * b = x * y * p ^ k := by
  obtain ⟨x', y', rest, hprod, -, ⟨rfl, hsome⟩ | ⟨-, hnone, -⟩⟩ := cancelBoth_spec p k a b
  · cases hsome.symm.trans h
    exact hprod
  · cases hnone.symm.trans h

/-- A power of a prime that divides a product can be cancelled from its factors. -/
lemma exists_cancelBoth {p : Int} (hp : Prime p) {k : ℕ} {a b : Int} (h : p ^ k ∣ a * b) :
    ∃ x y, cancelBoth p k a b = some (x, y) := by
  obtain ⟨x, y, rest, hprod, hle, ⟨-, hsome⟩ | ⟨hrest, -, hx, hy⟩⟩ := cancelBoth_spec p k a b
  · exact ⟨x, y, hsome⟩
  · have hsplit : p ^ k = p ^ rest * p ^ (k - rest) := by
      rw [← pow_add, Nat.add_sub_cancel' hle]
    rw [hprod, hsplit] at h
    have hdvd : p ^ rest ∣ x * y := Int.dvd_of_mul_dvd_mul_right (pow_ne_zero _ hp.ne_zero) h
    rcases hp.dvd_or_dvd ((dvd_pow_self p hrest).trans hdvd) with hdvd | hdvd
    · exact absurd hdvd hx
    · exact absurd hdvd hy

lemma prime_two : Prime (2 : Int) := Int.prime_iff_natAbs_prime.2 (by norm_num)

lemma prime_five : Prime (5 : Int) := Int.prime_iff_natAbs_prime.2 (by norm_num)

lemma one_eq_mul : one = 5 ^ places * 2 ^ places := by decide

/-- A product is found exactly if it is a multiple of one unit that fits a word. -/
theorem mul?_eq_some_iff {a b c : Decimal} :
    a.mul? b = some c ↔ a.scaled.toInt * b.scaled.toInt = c.scaled.toInt * one := by
  unfold mul?
  split
  · next hzero =>
    rw [ofScaled?_eq_some, mul_eq_zero.2 hzero, eq_comm (a := (0 : Int)), mul_eq_zero]
    exact ⟨.inl, fun h => h.resolve_right (by decide)⟩
  · constructor
    · intro h
      obtain ⟨⟨x, y⟩, htwo, h⟩ := Option.bind_eq_some_iff.1 h
      obtain ⟨⟨x', y'⟩, hfive, h⟩ := Option.bind_eq_some_iff.1 h
      rw [mul_eq_of_cancelBoth htwo, mul_eq_of_cancelBoth hfive, ofScaled?_eq_some.1 h, one_eq_mul,
        mul_assoc]
    · intro h
      have hdvd : (2 : Int) ^ places ∣ a.scaled.toInt * b.scaled.toInt := by
        rw [h, one_eq_mul, ← mul_assoc]
        exact dvd_mul_left _ _
      obtain ⟨x, y, htwo⟩ := exists_cancelBoth prime_two hdvd
      have hxy : x * y = c.scaled.toInt * 5 ^ places := by
        rw [mul_eq_of_cancelBoth htwo, one_eq_mul, ← mul_assoc] at h
        exact Int.eq_of_mul_eq_mul_right (by decide) h
      have hdvd : (5 : Int) ^ places ∣ x * y := hxy ▸ dvd_mul_left _ _
      obtain ⟨x', y', hfive⟩ := exists_cancelBoth prime_five hdvd
      rw [htwo]
      refine (congrArg (Option.bind · _) hfive).trans ?_
      rw [mul_eq_of_cancelBoth hfive] at hxy
      exact ofScaled?_eq_some.2 (Int.eq_of_mul_eq_mul_right (by decide) hxy).symm

/-! ## Quotients -/

lemma shiftUp_spec {k n : ℕ} {a a' : Int} (h : shiftUp k a = (a', n)) : a' = a * 10 ^ n := by
  induction k generalizing a n with
  | zero =>
    cases h
    simp
  | succ k ih =>
    rw [shiftUp] at h
    split at h
    · cases h
      rw [ih (n := (shiftUp k (a * 10)).2) rfl, pow_succ']
      ring
    · cases h
      simp

lemma shiftDown_spec {k n : ℕ} {a a' : Int} (h : shiftDown k a = (a', n)) : a = a' * 10 ^ n := by
  induction k generalizing a n with
  | zero =>
    cases h
    simp
  | succ k ih =>
    rw [shiftDown] at h
    split at h
    · next hmod =>
      cases h
      calc a = a.tdiv 10 * 10 := (Int.tdiv_mul_cancel (Int.dvd_of_emod_eq_zero hmod)).symm
        _ = (shiftDown k (a.tdiv 10)).1 * 10 ^ (shiftDown k (a.tdiv 10)).2 * 10 := by
            rw [← ih (n := (shiftDown k (a.tdiv 10)).2) rfl]
        _ = _ := by rw [pow_succ, mul_assoc]
    · cases h
      simp

/-- A quotient with a surplus of places that is cut off is the one with the right number of
places. -/
lemma tdiv_shifted {a y : Int} {up down : ℕ} (h : places ≤ up + down) :
    ((a * 10 ^ up).tdiv y).tdiv (10 ^ (up + down - places)) =
      (a * one).tdiv (y * 10 ^ down) := by
  have hscale : (10 : Int) ^ up * 10 ^ down = one * 10 ^ (up + down - places) := by
    have hone : one = 10 ^ places := rfl
    rw [hone, ← pow_add, ← pow_add, Nat.add_sub_cancel' h]
  -- The fraction is expanded by the shift of the divisor and reduced by the surplus.
  calc ((a * 10 ^ up).tdiv y).tdiv (10 ^ (up + down - places))
      = (a * 10 ^ up).tdiv (y * 10 ^ (up + down - places)) := tdiv_tdiv _ _ _
    _ = (a * 10 ^ up * 10 ^ down).tdiv (y * 10 ^ (up + down - places) * 10 ^ down) :=
        (Int.mul_tdiv_mul_of_pos_left _ _ (by positivity)).symm
    _ = (a * one * 10 ^ (up + down - places)).tdiv
          (y * 10 ^ down * 10 ^ (up + down - places)) := by
        rw [mul_assoc a, hscale, ← mul_assoc a, mul_right_comm y]
    _ = (a * one).tdiv (y * 10 ^ down) := Int.mul_tdiv_mul_of_pos_left _ _ (by positivity)

/-- A quotient that is found is cut off after the last place, and there is none by zero. -/
theorem div?_spec {a b c : Decimal} (h : a.div? b = some c) :
    b.scaled.toInt ≠ 0 ∧ c.scaled.toInt = (a.scaled.toInt * one).tdiv b.scaled.toInt := by
  obtain ⟨x, up, hx⟩ : ∃ x up, (if a.scaled.toInt = 0 then (a.scaled.toInt, 0)
      else shiftUp maxShift a.scaled.toInt) = (x, up) := ⟨_, _, rfl⟩
  obtain ⟨y, down, hy⟩ : ∃ y down, (if b.scaled.toInt = 0 then (b.scaled.toInt, 0)
      else shiftDown maxShift b.scaled.toInt) = (y, down) := ⟨_, _, rfl⟩
  have hxeq : x = a.scaled.toInt * 10 ^ up := by
    split at hx
    · cases hx
      simp
    · exact shiftUp_spec hx
  have hyeq : b.scaled.toInt = y * 10 ^ down := by
    split at hy
    · cases hy
      simp
    · exact shiftDown_spec hy
  unfold div? at h
  simp only [hx, hy] at h
  split at h
  · cases h
  · next hshift =>
    push Not at hshift
    obtain ⟨hplaces, hne⟩ := hshift
    obtain ⟨quotient, hquotient, h⟩ := Option.bind_eq_some_iff.1 h
    split at h
    · have hc : c.scaled.toInt = (x.tdiv y).tdiv (10 ^ (up + down - places)) := by
        rw [ofScaled?_eq_some.1 h, Signed.ofInt?_eq_some.1 hquotient]
        rfl
      rw [hc, hxeq, hyeq]
      exact ⟨mul_ne_zero hne (pow_ne_zero _ (by norm_num)), tdiv_shifted hplaces⟩
    · cases h

/-! ## Arithmetic on rational numbers -/

variable {a b c : Decimal} {x : ℚ}

/-- A decimal has so many units exactly if it is the number that these units make. -/
lemma scaled_eq_iff {i : Int} (hx : x * 10 ^ places = i) : c.scaled.toInt = i ↔ c.toRat = x := by
  rw [toRat_eq_iff, hx, Int.cast_inj]

lemma toRat_mul_units (d : Decimal) : d.toRat * 10 ^ places = d.scaled.toInt :=
  (toRat_eq_iff.1 rfl).symm

lemma add?_eq_some : a.add? b = some c ↔ c.toRat = a.toRat + b.toRat := by
  have hunits : (a.toRat + b.toRat) * 10 ^ places = (a.scaled.toInt + b.scaled.toInt : Int) := by
    rw [add_mul, toRat_mul_units, toRat_mul_units, Int.cast_add]
  exact ofScaled?_eq_some.trans (scaled_eq_iff hunits)

lemma sub?_eq_some : a.sub? b = some c ↔ c.toRat = a.toRat - b.toRat := by
  have hunits : (a.toRat - b.toRat) * 10 ^ places = (a.scaled.toInt - b.scaled.toInt : Int) := by
    rw [sub_mul, toRat_mul_units, toRat_mul_units, Int.cast_sub]
  exact ofScaled?_eq_some.trans (scaled_eq_iff hunits)

lemma neg?_eq_some : a.neg? = some c ↔ c.toRat = -a.toRat := by
  have hunits : -a.toRat * 10 ^ places = (-a.scaled.toInt : Int) := by
    rw [neg_mul, toRat_mul_units, Int.cast_neg]
  exact ofScaled?_eq_some.trans (scaled_eq_iff hunits)

lemma mul?_eq_some : a.mul? b = some c ↔ c.toRat = a.toRat * b.toRat := by
  rw [mul?_eq_some_iff, ← Int.cast_inj (α := ℚ), Int.cast_mul, Int.cast_mul, cast_one,
    ← toRat_mul_units a, ← toRat_mul_units b, ← toRat_mul_units c]
  have hunits : a.toRat * 10 ^ places * (b.toRat * 10 ^ places) =
      a.toRat * b.toRat * 10 ^ places * 10 ^ places := by ring
  rw [hunits, mul_left_inj' ten_pow_pos.ne', mul_left_inj' ten_pow_pos.ne', eq_comm]

lemma toRat_of_div? (h : a.div? b = some c) :
    b.toRat ≠ 0 ∧ c.toRat = towardsZero (a.toRat / b.toRat * 10 ^ places) / 10 ^ places := by
  obtain ⟨hne, hc⟩ := div?_spec h
  have hquotient : a.toRat / b.toRat * 10 ^ places =
      ((a.scaled.toInt * one : Int) : ℚ) / b.scaled.toInt := by
    rw [toRat, toRat, div_div_div_cancel_right₀ ten_pow_pos.ne', Int.cast_mul, cast_one,
      div_mul_eq_mul_div]
  constructor
  · rw [toRat]
    exact div_ne_zero (Int.cast_ne_zero.2 hne) ten_pow_pos.ne'
  · rw [hquotient, towardsZero_div, ← hc, toRat]

/-- Decimals are ordered as rational numbers. -/
lemma compare_eq (a b : Decimal) : a.compare b = Ord.compare a.toRat b.toRat := by
  have hmono : StrictMono fun i : Int => (i : ℚ) / 10 ^ places := fun i j hij =>
    div_lt_div_of_pos_right (Int.cast_lt.2 hij) ten_pow_pos
  have hcompare := hmono.cmp_map_eq a.scaled.toInt b.scaled.toInt
  rw [cmp_eq_compare, cmp_eq_compare] at hcompare
  exact hcompare.symm

end Decimal

/-! ## Kinds of exact numbers -/

/-- The kinds of numbers that are calculated with exactly. -/
inductive ExactKind where
  | integer
  | decimal
  deriving DecidableEq, Repr

namespace ExactKind

/-- The kind of what is made of numbers of two kinds. -/
def join : ExactKind → ExactKind → ExactKind
  | integer, integer => integer
  | _, _ => decimal

/-- The rational numbers that numbers of a kind can be: the integers of 64 bits, and the multiples
of 10⁻¹⁸ by an integer of 128 bits. -/
def Represents : ExactKind → ℚ → Prop
  | integer, x => ∃ i : Int, Signed.Fits 64 i ∧ x = i
  | decimal, x => ∃ i : Int, Signed.Fits 128 i ∧ x = i / 10 ^ 18

end ExactKind

namespace Numeric

/-- A number of an exact kind as a rational number. -/
inductive IsExactly : Numeric → ExactKind → ℚ → Prop
  | integer {i : Signed 64} {x : ℚ} (h : i.toInt = x) : IsExactly (.integer i) .integer x
  | decimal {d : Decimal} {x : ℚ} (h : d.toRat = x) : IsExactly (.decimal d) .decimal x

variable {n : Numeric} {k : ExactKind} {x : ℚ}

lemma map_integer_eq_some {i : Int} (hx : (i : ℚ) = x) :
    (Signed.ofInt? i).map integer = some n ↔ n.IsExactly .integer x := by
  rw [Option.map_eq_some_iff]
  constructor
  · rintro ⟨a, ha, rfl⟩
    rw [← Signed.ofInt?_eq_some.1 ha] at hx
    exact .integer hx
  · intro h
    cases h with
    | integer h => exact ⟨_, Signed.ofInt?_eq_some.2 (Int.cast_inj.1 (h.trans hx.symm)), rfl⟩

lemma map_decimal_eq_some {d? : Option Decimal} (hd : ∀ d, d? = some d ↔ d.toRat = x) :
    d?.map decimal = some n ↔ n.IsExactly .decimal x := by
  rw [Option.map_eq_some_iff]
  constructor
  · rintro ⟨d, h, rfl⟩
    exact .decimal ((hd d).1 h)
  · intro h
    cases h with
    | decimal h => exact ⟨_, (hd _).2 h, rfl⟩

/-- What a kind represents is what numbers of this kind are. -/
lemma represents_iff : k.Represents x ↔ ∃ n : Numeric, n.IsExactly k x := by
  cases k with
  | integer =>
    constructor
    · rintro ⟨i, hfits, rfl⟩
      exact ⟨.integer ⟨i, hfits⟩, .integer rfl⟩
    · rintro ⟨n, hn⟩
      cases hn with
      | @integer i _ h => exact ⟨i.toInt, i.fits, h.symm⟩
  | decimal =>
    constructor
    · rintro ⟨i, hfits, rfl⟩
      exact ⟨.decimal ⟨⟨i, hfits⟩⟩, .decimal rfl⟩
    · rintro ⟨n, hn⟩
      cases hn with
      | @decimal d _ h => exact ⟨d.scaled.toInt, d.scaled.fits, h.symm⟩

/-- An operation computes a rational number of a kind: it has no other result, and it only fails if
the kind does not represent that number. -/
structure Computes (result : Option Numeric) (k : ExactKind) (x : ℚ) : Prop where
  isExactly : ∀ n, result = some n → n.IsExactly k x
  eq_none_iff : result = none ↔ ¬ k.Represents x

lemma computes_of_iff {result : Option Numeric}
    (h : ∀ n, result = some n ↔ n.IsExactly k x) : Computes result k x := by
  refine ⟨fun n => (h n).1, ?_⟩
  rw [represents_iff, not_exists, Option.eq_none_iff_forall_ne_some]
  exact forall_congr' fun n => not_congr (h n)

/-- The number with its sign changed. -/
lemma computes_neg? (h : n.IsExactly k x) : Computes n.neg? k (-x) := by
  refine computes_of_iff fun m => ?_
  cases h with
  | integer h => exact map_integer_eq_some (by rw [Int.cast_neg, h])
  | decimal h => exact map_decimal_eq_some fun d => by rw [Decimal.neg?_eq_some, h]

end Numeric

/-! ## Two numbers of one kind -/

namespace NumericPair

open Numeric

/-- Two numbers of an exact kind as rational numbers. -/
inductive IsExactly : NumericPair → ExactKind → ℚ → ℚ → Prop
  | integer {i j : Signed 64} {x y : ℚ} (hi : i.toInt = x) (hj : j.toInt = y) :
      IsExactly (.integer i j) .integer x y
  | decimal {d e : Decimal} {x y : ℚ} (hd : d.toRat = x) (he : e.toRat = y) :
      IsExactly (.decimal d e) .decimal x y

variable {p : NumericPair} {a b : Numeric} {k l : ExactKind} {x y : ℚ}

/-- Promotion keeps exact numbers as they are. -/
theorem isExactly_promote (ha : a.IsExactly k x) (hb : b.IsExactly l y) :
    (promote a b).IsExactly (k.join l) x y := by
  cases ha with
  | integer hi =>
    cases hb with
    | integer hj => exact .integer hi hj
    | decimal he => exact .decimal ((Decimal.toRat_ofInteger _).trans hi) he
  | decimal hd =>
    cases hb with
    | integer hj => exact .decimal hd ((Decimal.toRat_ofInteger _).trans hj)
    | decimal he => exact .decimal hd he

lemma computes_add? (h : p.IsExactly k x y) : Computes p.add? k (x + y) := by
  refine computes_of_iff fun n => ?_
  cases h with
  | integer hi hj => exact map_integer_eq_some (by rw [Int.cast_add, hi, hj])
  | decimal hd he => exact map_decimal_eq_some fun c => by rw [Decimal.add?_eq_some, hd, he]

lemma computes_sub? (h : p.IsExactly k x y) : Computes p.sub? k (x - y) := by
  refine computes_of_iff fun n => ?_
  cases h with
  | integer hi hj => exact map_integer_eq_some (by rw [Int.cast_sub, hi, hj])
  | decimal hd he => exact map_decimal_eq_some fun c => by rw [Decimal.sub?_eq_some, hd, he]

lemma computes_mul? (h : p.IsExactly k x y) : Computes p.mul? k (x * y) := by
  refine computes_of_iff fun n => ?_
  cases h with
  | integer hi hj => exact map_integer_eq_some (by rw [Int.cast_mul, hi, hj])
  | decimal hd he => exact map_decimal_eq_some fun c => by rw [Decimal.mul?_eq_some, hd, he]

/-- A quotient is a decimal whatever the kind of the operands. -/
lemma div?_eq_map (h : p.IsExactly k x y) :
    ∃ d e : Decimal, p.div? = (d.div? e).map .decimal ∧ d.toRat = x ∧ e.toRat = y := by
  cases h with
  | integer hi hj =>
    exact ⟨_, _, rfl, (Decimal.toRat_ofInteger _).trans hi, (Decimal.toRat_ofInteger _).trans hj⟩
  | decimal hd he => exact ⟨_, _, rfl, hd, he⟩

/-- The quotient is cut off after eighteen digits, and there is none by zero. -/
lemma isExactly_of_div? (h : p.IsExactly k x y) {n : Numeric} (hn : p.div? = some n) :
    y ≠ 0 ∧ n.IsExactly .decimal (towardsZero (x / y * 10 ^ 18) / 10 ^ 18) := by
  obtain ⟨d, e, hdiv, rfl, rfl⟩ := div?_eq_map h
  rw [hdiv] at hn
  obtain ⟨c, hc, rfl⟩ := Option.map_eq_some_iff.1 hn
  exact ⟨(Decimal.toRat_of_div? hc).1, .decimal (Decimal.toRat_of_div? hc).2⟩

/-- Exact numbers are ordered as rational numbers. -/
theorem compare?_eq_some (h : p.IsExactly k x y) : p.compare? = some (compare x y) := by
  cases h with
  | @integer i j x y hi hj =>
    have hcompare := (Int.cast_strictMono (R := ℚ)).cmp_map_eq i.toInt j.toInt
    rw [cmp_eq_compare, cmp_eq_compare, hi, hj] at hcompare
    exact congrArg some hcompare.symm
  | @decimal d e x y hd he =>
    rw [compare?, Decimal.compare_eq, hd, he]

end NumericPair

namespace Numeric

variable {a b : Numeric} {k l : ExactKind} {x y : ℚ}

/-- **Exact arithmetic.**  Sums, differences and products of integers and decimals, and the numbers
with their signs changed, are exact, and they are missing only if their kind does not represent
them.  A quotient is the decimal that is left of the exact one without what comes behind its
eighteenth digit, if it is found, and there is none by zero. -/
theorem computes_exactly (ha : a.IsExactly k x) (hb : b.IsExactly l y) :
    Computes (NumericPair.promote a b).add? (k.join l) (x + y) ∧
      Computes (NumericPair.promote a b).sub? (k.join l) (x - y) ∧
      Computes (NumericPair.promote a b).mul? (k.join l) (x * y) ∧
      Computes a.neg? k (-x) ∧
      (∀ n, (NumericPair.promote a b).div? = some n →
        n.IsExactly .decimal (towardsZero (x / y * 10 ^ 18) / 10 ^ 18)) ∧
      (y = 0 → (NumericPair.promote a b).div? = none) := by
  have hpair := NumericPair.isExactly_promote ha hb
  refine ⟨NumericPair.computes_add? hpair, NumericPair.computes_sub? hpair,
    NumericPair.computes_mul? hpair, computes_neg? ha,
    fun n hn => (NumericPair.isExactly_of_div? hpair hn).2, fun hy => ?_⟩
  rw [Option.eq_none_iff_forall_ne_some]
  exact fun n hn => (NumericPair.isExactly_of_div? hpair hn).1 hy

/-- The least integer cannot change its sign, and its quotient by 0.3 is cut off. -/
theorem computes_exactly_sample :
    let a : Numeric := .integer ⟨-9223372036854775808, by decide⟩
    let b : Numeric := .decimal ⟨⟨300000000000000000, by decide⟩⟩
    a.IsExactly .integer (-9223372036854775808) ∧ b.IsExactly .decimal (3 / 10) ∧
      ¬ ExactKind.integer.Represents 9223372036854775808 ∧
      (∃ n, (NumericPair.promote a b).mul? = some n ∧
        n.IsExactly .decimal (-9223372036854775808 * (3 / 10))) ∧
      ∃ n, (NumericPair.promote a b).div? = some n ∧ n.IsExactly .decimal
        (towardsZero (-9223372036854775808 / (3 / 10) * 10 ^ 18) / 10 ^ 18) := by
  intro a b
  have ha : a.IsExactly .integer (-9223372036854775808) := .integer (by norm_num)
  have hb : b.IsExactly .decimal (3 / 10) :=
    .decimal (by norm_num [Decimal.toRat, Decimal.places])
  obtain ⟨-, -, hmul, hneg, hdiv, -⟩ := computes_exactly ha hb
  have hproduct : (NumericPair.promote a b).mul?.isSome = true := by decide +kernel
  have hquotient : (NumericPair.promote a b).div?.isSome = true := by decide +kernel
  obtain ⟨n, hn⟩ := Option.isSome_iff_exists.1 hproduct
  obtain ⟨m, hm⟩ := Option.isSome_iff_exists.1 hquotient
  refine ⟨ha, hb, ?_, ⟨n, hn, hmul.isExactly n hn⟩, m, hm, hdiv m hm⟩
  have hnone : a.neg? = none := rfl
  have hlarge := hneg.eq_none_iff.1 hnone
  rwa [neg_neg] at hlarge

end Numeric

end SparqlStream
