import Mathlib
import SparqlStream.Numeric.Basic

/-!
# The order of floating point numbers

Floating point numbers are compared by their words: first their signs, then their exponents, then
their significands.  This is the order of the numbers that they stand for.  Every number of the
single and of the double format is a whole number of the smallest units of the double format, so
these numbers are integers here: `BinaryNumber.units?`.  What is infinite counts as more units than
any number has, and what is no number has none.

`NumericPair.compare?_single` and `NumericPair.compare?_double` say that numbers are compared by
their units, and `Numeric.units?_toDouble` says that promoting a number of the single format keeps
its units.
-/

namespace SparqlStream

open Float.Model

/-! ## Fields of words -/

section Fields

variable {S : Float.Model.Format}

lemma toNat_unpackMantissa (b : BitVec S.numBits) :
    (UnpackedFloat.unpackMantissa b).toNat = b.toNat % 2 ^ S.mantissaBitsWithoutImplicit := by
  have hpos := S.hm
  rw [UnpackedFloat.unpackMantissa, BitVec.toNat_cast, BitVec.extractLsb_toNat]
  rw [Nat.shiftRight_zero, Nat.sub_zero, Nat.sub_add_cancel hpos]

lemma toNat_unpackExponent (b : BitVec S.numBits) : (UnpackedFloat.unpackExponent b).toNat =
    b.toNat / 2 ^ S.mantissaBitsWithoutImplicit % 2 ^ S.exponentBits := by
  have hpos := S.he
  have hwidth : S.mantissaBitsWithoutImplicit + S.exponentBits - 1 - S.mantissaBitsWithoutImplicit
      + 1 = S.exponentBits := by omega
  rw [UnpackedFloat.unpackExponent, BitVec.toNat_cast, BitVec.extractLsb_toNat, hwidth,
    Nat.shiftRight_eq_div_pow]

lemma toNat_unpackSign (b : BitVec S.numBits) : (UnpackedFloat.unpackSign b).toNat =
    b.toNat / 2 ^ S.mantissaBitsWithoutImplicit / 2 ^ S.exponentBits % 2 := by
  rw [UnpackedFloat.unpackSign, BitVec.toNat_cast, BitVec.extractLsb_toNat, Nat.sub_self,
    Nat.shiftRight_eq_div_pow, Nat.pow_add, Nat.div_div_eq_div_mul]

lemma toBitVec_ofBitVec (v : BitVec 1) : (UnpackedFloat.Sign.ofBitVec v).toBitVec = v := by
  revert v
  decide

/-- A word is put together from its fields. -/
lemma packComponents_unpack (b : BitVec S.numBits) :
    UnpackedFloat.packComponents S (UnpackedFloat.Sign.ofBitVec (UnpackedFloat.unpackSign b))
      (UnpackedFloat.unpackExponent b) (UnpackedFloat.unpackMantissa b) = b := by
  have hlt : b.toNat / 2 ^ S.mantissaBitsWithoutImplicit / 2 ^ S.exponentBits < 2 := by
    rw [Nat.div_div_eq_div_mul, ← Nat.pow_add]
    refine Nat.div_lt_of_lt_mul ?_
    rw [← Nat.pow_succ]
    refine b.isLt.trans_eq (congrArg (2 ^ ·) ?_)
    rw [Float.Model.Format.numBits]
    omega
  refine BitVec.eq_of_toNat_eq ?_
  rw [UnpackedFloat.packComponents, toBitVec_ofBitVec, BitVec.toNat_append, BitVec.toNat_append,
    ← Nat.shiftLeft_add_eq_or_of_lt (UnpackedFloat.unpackMantissa b).isLt,
    ← Nat.shiftLeft_add_eq_or_of_lt (UnpackedFloat.unpackExponent b).isLt, Nat.shiftLeft_eq,
    Nat.shiftLeft_eq, toNat_unpackSign, toNat_unpackExponent, toNat_unpackMantissa,
    Nat.mod_eq_of_lt hlt, Nat.div_add_mod', Nat.div_add_mod']

/-- A significand with its leading bit. -/
lemma toNat_one_append {k : Nat} (v : BitVec k) : (1#1 ++ v).toNat = 2 ^ k + v.toNat := by
  rw [BitVec.toNat_append, ← Nat.shiftLeft_add_eq_or_of_lt v.isLt, Nat.shiftLeft_eq,
    BitVec.toNat_one Nat.one_pos, Nat.one_mul]

/-- The leading bit of a significand is not packed. -/
lemma ofNat_two_pow_add {k : Nat} (v : BitVec k) : BitVec.ofNat k (2 ^ k + v.toNat) = v :=
  BitVec.eq_of_toNat_eq (by rw [BitVec.toNat_ofNat, Nat.add_mod_left, Nat.mod_eq_of_lt v.isLt])

/-- Packing brings back the word, unless it encodes what is no number. -/
lemma pack_unpack (hwide : 2 ≤ S.exponentBits) {b : BitVec S.numBits}
    (hb : UnpackedFloat.unpack S b ≠ .notANumber) :
    UnpackedFloat.pack S (UnpackedFloat.unpack S b) = b := by
  have hfields := packComponents_unpack b
  have hfour : 2 ^ 2 ≤ 2 ^ S.exponentBits := Nat.pow_le_pow_right Nat.two_pos hwide
  have hmantissa := (UnpackedFloat.unpackMantissa b).isLt
  have hexponent := (UnpackedFloat.unpackExponent b).isLt
  rw [UnpackedFloat.unpack] at hb ⊢
  split_ifs at hb ⊢ with htop hfraction hzero hfraction
  · rw [htop, hfraction] at hfields
    exact hfields
  · exact absurd rfl hb
  · rw [hzero, hfraction] at hfields
    exact hfields
  · have hlog : (UnpackedFloat.unpackMantissa b).toNat.log2 < S.mantissaBitsWithoutImplicit :=
      (Nat.log2_lt (by simpa [← BitVec.toNat_inj] using hfraction)).2 hmantissa
    have hbiased : ((UnpackedFloat.unpackExponent b).toNat -
        (S.exponentBias + S.mantissaBitsWithoutImplicit) + 1 + S.exponentBias +
          S.mantissaBitsWithoutImplicit : Int).toNat = 1 := by
      rw [hzero, BitVec.toNat_zero]
      omega
    rw [hzero] at hfields
    simp only [UnpackedFloat.pack, hbiased]
    rw [if_neg (by omega), if_neg (by rw [Float.Model.Format.mantissaBits]; omega)]
    rw [BitVec.ofNat_toNat, BitVec.setWidth_eq]
    exact hfields
  · have hlog : (1#1 ++ UnpackedFloat.unpackMantissa b).toNat.log2 =
        S.mantissaBitsWithoutImplicit := by
      rw [toNat_one_append, Nat.log2_eq_iff (by omega), Nat.pow_succ]
      omega
    have hbiased : ((UnpackedFloat.unpackExponent b).toNat -
        (S.exponentBias + S.mantissaBitsWithoutImplicit) + S.exponentBias +
          S.mantissaBitsWithoutImplicit : Int).toNat = (UnpackedFloat.unpackExponent b).toNat := by
      omega
    have htop' : (UnpackedFloat.unpackExponent b).toNat ≠ 2 ^ S.exponentBits - 1 := by
      rw [← BitVec.toNat_allOnes, ← BitVec.neg_one_eq_allOnes]
      exact fun h => htop (BitVec.eq_of_toNat_eq h)
    simp only [UnpackedFloat.pack, hbiased]
    rw [if_neg (by omega), if_pos (by rw [hlog, Float.Model.Format.mantissaBits, Nat.add_comm])]
    rw [BitVec.ofNat_toNat, BitVec.setWidth_eq, toNat_one_append, ofNat_two_pow_add]
    exact hfields

end Fields

/-! ## Formats -/

/-- A format of binary numbers is a format of floating point numbers, and its numbers are counted by
the smallest units of the double format. -/
structure BinaryFormat.Matches (f : BinaryFormat) (S : Float.Model.Format) : Prop where
  precision : f.precision = S.mantissaBitsWithoutImplicit + 1
  exponentBits : f.exponentBits = S.exponentBits
  wide : 2 ≤ S.exponentBits
  minExponent : f.minExponent = 1 - (S.exponentBias + S.mantissaBitsWithoutImplicit : Nat)
  maxExponent : f.maxExponent = f.minExponent + (2 ^ S.exponentBits : Nat) - 3
  low : -1074 ≤ f.minExponent
  high : f.maxExponent + f.precision ≤ 1024

lemma BinaryFormat.single_matches : single.Matches .binary32 :=
  ⟨rfl, by decide, by decide, by decide, by decide, by decide, by decide⟩

lemma BinaryFormat.double_matches : double.Matches .binary64 :=
  ⟨rfl, by decide, by decide, by decide, by decide, by decide, by decide⟩

namespace BinaryNumber

variable {f : BinaryFormat} {S : Float.Model.Format}

/-- Whether a sign is a minus. -/
def isNegative : UnpackedFloat.Sign → Bool
  | .negative => true
  | .positive => false

/-- The number that an unpacked floating point number of a format is. -/
def ofUnpacked (f : BinaryFormat) : UnpackedFloat → BinaryNumber
  | .notANumber => nan
  | .infinity s => infinite (isNegative s)
  | .zero s => finite (isNegative s) 0 f.minExponent
  | .finite s m e _ => finite (isNegative s) m e

lemma isNegative_ofBitVec (v : BitVec 1) :
    isNegative (UnpackedFloat.Sign.ofBitVec v) = decide (v.toNat = 1) := by
  revert v
  decide

/-- The word of a floating point number encodes the number that it is unpacked to. -/
lemma ofUnpacked_unpack (h : f.Matches S) (b : BitVec S.numBits) :
    ofUnpacked f (UnpackedFloat.unpack S b) = ofWord f b.toNat := by
  have hexponent := toNat_unpackExponent b
  have hmantissa := toNat_unpackMantissa b
  have hsign := toNat_unpackSign b
  have hpos : 0 < 2 ^ S.exponentBits := Nat.two_pow_pos _
  have htop : UnpackedFloat.unpackExponent b = -1#_ ↔
      (UnpackedFloat.unpackExponent b).toNat = 2 ^ S.exponentBits - 1 := by
    rw [← BitVec.toNat_inj, BitVec.neg_one_eq_allOnes, BitVec.toNat_allOnes]
  have hzero : UnpackedFloat.unpackExponent b = 0#_ ↔
      (UnpackedFloat.unpackExponent b).toNat = 0 := by
    rw [← BitVec.toNat_inj, BitVec.toNat_zero]
  have hfraction : UnpackedFloat.unpackMantissa b = 0#_ ↔
      (UnpackedFloat.unpackMantissa b).toNat = 0 := by
    rw [← BitVec.toNat_inj, BitVec.toNat_zero]
  rw [ofWord, h.precision, h.exponentBits, Nat.add_sub_cancel]
  simp only [Nat.pow_eq, ← hexponent, ← hmantissa, ← hsign]
  rw [UnpackedFloat.unpack]
  simp only [htop, hzero, hfraction]
  split_ifs <;> simp only [ofUnpacked, isNegative_ofBitVec]
  · next hnormal _ hzero => rw [hzero]
  · next hnormal hexp _ =>
    refine congrArg (finite _ _) ?_
    rw [hexp, h.minExponent]
    omega
  · next hnormal hexp =>
    rw [toNat_one_append]
    refine congrArg (finite _ _) ?_
    rw [h.minExponent]
    omega

/-! ## Units -/

/-- More units than any finite number of the double format has. -/
def beyond : Nat := 2 ^ (1024 + 1074)

lemma beyond_pos : 0 < beyond := by
  rw [beyond]
  positivity

/-- The smallest units of the double format that make up a number.  What is infinite counts as a
number beyond all others. -/
def units? : BinaryNumber → Option Int
  | nan => none
  | infinite negative => some (Digits.signed negative beyond)
  | finite negative m q => some (Digits.signed negative (m * 2 ^ (q + 1074).toNat))

/-- A number of a format: unless its exponent is the smallest one, all bits of its significand are
used. -/
def IsCanonical (f : BinaryFormat) : BinaryNumber → Prop
  | finite _ m q => m < 2 ^ f.precision ∧ f.minExponent ≤ q ∧ q ≤ f.maxExponent ∧
      (f.minExponent < q → 2 ^ (f.precision - 1) ≤ m)
  | _ => True

/-- A number with a larger exponent is larger, if all bits of its significand are used. -/
lemma mul_two_pow_lt {m m' k n n' : Nat} (hm : m < 2 ^ (k + 1)) (hm' : 2 ^ k ≤ m')
    (hn : n < n') : m * 2 ^ n < m' * 2 ^ n' :=
  calc m * 2 ^ n < 2 ^ (k + 1) * 2 ^ n := Nat.mul_lt_mul_of_pos_right hm (Nat.two_pow_pos n)
    _ = 2 ^ k * 2 ^ (n + 1) := by ring
    _ ≤ 2 ^ k * 2 ^ n' := Nat.mul_le_mul_left _ (Nat.pow_le_pow_right Nat.two_pos hn)
    _ ≤ m' * 2 ^ n' := Nat.mul_le_mul_right _ hm'

section Signed

variable {negative negative' : Bool} {a b : Nat}

/-- The order of two numbers whose signs are known, and how they compare without their signs. -/
def signedOrder (negative negative' : Bool) (o : Ordering) : Ordering :=
  match negative, negative' with
  | false, false => o
  | true, true => o.swap
  | true, false => .lt
  | false, true => .gt

lemma compare_signed (h : 0 < a ∨ 0 < b) :
    compare (Digits.signed negative a) (Digits.signed negative' b) =
      signedOrder negative negative' (compare a b) := by
  have hcast : compare (a : Int) b = compare a b :=
    (cmp_eq_compare _ _).symm.trans
      ((Nat.strictMono_cast.cmp_map_eq a b).trans (cmp_eq_compare a b))
  cases negative <;> cases negative' <;> simp only [Digits.signed, signedOrder, if_true,
    Bool.false_eq_true, if_false]
  · exact hcast
  · exact compare_gt_iff_gt.2 (by omega)
  · exact compare_lt_iff_lt.2 (by omega)
  · rw [← hcast]
    rcases lt_trichotomy (a : Int) b with hab | hab | hab
    · rw [compare_lt_iff_lt.2 hab]
      exact compare_gt_iff_gt.2 (by omega)
    · rw [compare_eq_iff_eq.2 hab]
      exact compare_eq_iff_eq.2 (by omega)
    · rw [compare_gt_iff_gt.2 hab]
      exact compare_lt_iff_lt.2 (by omega)

lemma compare_signed_zero (negative negative' : Bool) :
    compare (Digits.signed negative 0) (Digits.signed negative' 0) = .eq := by
  cases negative <;> cases negative' <;> rfl

end Signed

section Compare

variable (hf : f.Matches S) {negative negative' : Bool} {m m' : Nat} {q q' : Int}

include hf

/-- Numbers of a format are compared by their exponents first. -/
lemma compare_lex (h : (finite negative m q).IsCanonical f)
    (h' : (finite negative' m' q').IsCanonical f) :
    (compare q q').then (compare m m') =
      compare (m * 2 ^ (q + 1074).toNat) (m' * 2 ^ (q' + 1074).toNat) := by
  have hprecision := hf.precision
  have hlow := hf.low
  obtain ⟨hm, hq, -, hfull⟩ := h
  obtain ⟨hm', hq', -, hfull'⟩ := h'
  rw [hprecision, Nat.add_sub_cancel] at hfull hfull'
  rw [hprecision] at hm hm'
  rcases lt_trichotomy q q' with hlt | rfl | hgt
  · have hunits : m * 2 ^ (q + 1074).toNat < m' * 2 ^ (q' + 1074).toNat :=
      mul_two_pow_lt hm (hfull' (by omega)) (by omega)
    rw [compare_lt_iff_lt.2 hlt, compare_lt_iff_lt.2 hunits]
    rfl
  · have hmono : StrictMono fun n : Nat => n * 2 ^ (q + 1074).toNat :=
      strictMono_mul_right_of_pos (Nat.two_pow_pos _)
    rw [compare_eq_iff_eq.2 (rfl : q = q)]
    exact ((cmp_eq_compare _ _).symm.trans (hmono.cmp_map_eq m m').symm).trans (cmp_eq_compare _ _)
  · have hunits : m' * 2 ^ (q' + 1074).toNat < m * 2 ^ (q + 1074).toNat :=
      mul_two_pow_lt hm' (hfull (by omega)) (by omega)
    rw [compare_gt_iff_gt.2 hgt, compare_gt_iff_gt.2 hunits]
    rfl

lemma units_lt (h : (finite negative m q).IsCanonical f) :
    m * 2 ^ (q + 1074).toNat < beyond := by
  have hlow := hf.low
  have hhigh := hf.high
  obtain ⟨hm, hq, hq', -⟩ := h
  calc m * 2 ^ (q + 1074).toNat < 2 ^ f.precision * 2 ^ (q + 1074).toNat :=
        Nat.mul_lt_mul_of_pos_right hm (Nat.two_pow_pos _)
    _ = 2 ^ (f.precision + (q + 1074).toNat) := (Nat.pow_add ..).symm
    _ ≤ beyond := by
      rw [beyond]
      exact pow_le_pow_right₀ one_le_two (by omega)

/-- Floating point numbers are compared by their units. -/
theorem compare_unpacked {u v : UnpackedFloat} (hu : (ofUnpacked f u).IsCanonical f)
    (hv : (ofUnpacked f v).IsCanonical f) :
    u.compare v = Option.map₂ compare (ofUnpacked f u).units? (ofUnpacked f v).units? := by
  have hunits : ∀ {m : Nat} (q : Int), 0 < m → 0 < m * 2 ^ (q + 1074).toNat :=
    fun _ hm => Nat.mul_pos hm (Nat.two_pow_pos _)
  cases u with
  | notANumber => cases v <;> rfl
  | infinity s =>
    cases v with
    | notANumber => cases s <;> rfl
    | infinity t =>
      rw [ofUnpacked, ofUnpacked, units?, units?, Option.map₂_some_some,
        compare_signed (.inl beyond_pos), compare_eq_iff_eq.2 rfl]
      cases s <;> cases t <;> rfl
    | zero t =>
      rw [ofUnpacked, ofUnpacked, units?, units?, Option.map₂_some_some, Nat.zero_mul,
        compare_signed (.inl beyond_pos), compare_gt_iff_gt.2 beyond_pos]
      cases s <;> cases t <;> rfl
    | finite t m' q' hm' =>
      rw [ofUnpacked, ofUnpacked, units?, units?, Option.map₂_some_some,
        compare_signed (.inl beyond_pos), compare_gt_iff_gt.2 (units_lt hf hv)]
      cases s <;> cases t <;> rfl
  | zero s =>
    cases v with
    | notANumber => rfl
    | infinity t =>
      rw [ofUnpacked, ofUnpacked, units?, units?, Option.map₂_some_some, Nat.zero_mul,
        compare_signed (.inr beyond_pos), compare_lt_iff_lt.2 beyond_pos]
      cases s <;> cases t <;> rfl
    | zero t =>
      rw [ofUnpacked, ofUnpacked, units?, units?, Option.map₂_some_some, Nat.zero_mul,
        compare_signed_zero]
      rfl
    | finite t m' q' hm' =>
      rw [ofUnpacked, ofUnpacked, units?, units?, Option.map₂_some_some, Nat.zero_mul,
        compare_signed (.inr (hunits q' hm')), compare_lt_iff_lt.2 (hunits q' hm')]
      cases s <;> cases t <;> rfl
  | finite s m q hm =>
    cases v with
    | notANumber => rfl
    | infinity t =>
      rw [ofUnpacked, ofUnpacked, units?, units?, Option.map₂_some_some,
        compare_signed (.inr beyond_pos), compare_lt_iff_lt.2 (units_lt hf hu)]
      cases s <;> cases t <;> rfl
    | zero t =>
      rw [ofUnpacked, ofUnpacked, units?, units?, Option.map₂_some_some, Nat.zero_mul,
        compare_signed (.inl (hunits q hm)), compare_gt_iff_gt.2 (hunits q hm)]
      cases s <;> cases t <;> rfl
    | finite t m' q' hm' =>
      rw [ofUnpacked, ofUnpacked, units?, units?, Option.map₂_some_some,
        compare_signed (.inl (hunits q hm)), ← compare_lex hf hu hv]
      cases s <;> cases t <;> rfl

end Compare

/-- The number of a word uses all bits of its significand where it can. -/
lemma isCanonical_ofWord (h : f.Matches S) (w : Nat) : (ofWord f w).IsCanonical f := by
  have hk : 0 < 2 ^ S.mantissaBitsWithoutImplicit := Nat.two_pow_pos _
  have he : 0 < 2 ^ S.exponentBits := Nat.two_pow_pos _
  have hfraction := Nat.mod_lt w hk
  have hexponent := Nat.mod_lt (w / 2 ^ S.mantissaBitsWithoutImplicit) he
  have hmax := h.maxExponent
  have hfour : 2 ^ 2 ≤ 2 ^ S.exponentBits := Nat.pow_le_pow_right Nat.two_pos h.wide
  have hdouble : 2 ^ f.precision = 2 ^ S.mantissaBitsWithoutImplicit +
      2 ^ S.mantissaBitsWithoutImplicit := by
    rw [h.precision, Nat.pow_succ, Nat.mul_two]
  rw [ofWord, h.precision, h.exponentBits, Nat.add_sub_cancel]
  simp only [Nat.pow_eq]
  split_ifs with htop _ hzero
  · trivial
  · trivial
  · exact ⟨by omega, le_rfl, by omega, fun hlt => absurd hlt (lt_irrefl _)⟩
  · refine ⟨by omega, by omega, by omega, fun _ => ?_⟩
    rw [h.precision, Nat.add_sub_cancel]
    exact Nat.le_add_right _ _

/-- Words are compared by the units of the numbers that they encode. -/
lemma compare_unpack (h : f.Matches S) (v w : BitVec S.numBits) :
    (UnpackedFloat.unpack S v).compare (UnpackedFloat.unpack S w) =
      Option.map₂ compare (ofWord f v.toNat).units? (ofWord f w.toNat).units? := by
  rw [← ofUnpacked_unpack h, ← ofUnpacked_unpack h]
  refine compare_unpacked h ?_ ?_
  · rw [ofUnpacked_unpack h]
    exact isCanonical_ofWord h _
  · rw [ofUnpacked_unpack h]
    exact isCanonical_ofWord h _

end BinaryNumber

namespace NumericPair

open BinaryNumber

/-- The order that is found by three comparisons. -/
lemma floatOrder_units (i j : Option Int) :
    floatOrder (Option.map₂ compare i j == some .lt) (Option.map₂ compare i j == some .eq)
      (Option.map₂ compare j i == some .lt) = Option.map₂ compare i j := by
  cases i with
  | none => cases j <;> rfl
  | some i =>
    cases j with
    | none => rfl
    | some j =>
      rw [Option.map₂_some_some, Option.map₂_some_some]
      rcases lt_trichotomy i j with hlt | rfl | hgt
      · rw [compare_lt_iff_lt.2 hlt]
        rfl
      · rw [compare_eq_iff_eq.2 rfl]
        rfl
      · rw [compare_gt_iff_gt.2 hgt, compare_lt_iff_lt.2 hgt]
        rfl

/-- Numbers of single precision are compared by their units. -/
theorem compare?_single (a b : Float32) : (single a b).compare? =
    Option.map₂ compare (Numeric.binaryOfSingle a).units? (Numeric.binaryOfSingle b).units? := by
  have hunits : ∀ a b : Float32, a.toModel.unpack.compare b.toModel.unpack =
      Option.map₂ compare (Numeric.binaryOfSingle a).units? (Numeric.binaryOfSingle b).units? :=
    fun a b => compare_unpack BinaryFormat.single_matches a.toModel.toBits.toBitVec
      b.toModel.toBits.toBitVec
  have hlt : ∀ a b : Float32, decide (a < b) =
      (a.toModel.unpack.compare b.toModel.unpack == some .lt) :=
    fun _ _ => Bool.decide_eq_true.trans Bool.decide_eq_true
  have heq : (a == b) = (a.toModel.unpack.compare b.toModel.unpack == some .eq) := rfl
  rw [compare?, hlt, hlt, heq, hunits, hunits, floatOrder_units]

/-- Numbers of double precision are compared by their units. -/
theorem compare?_double (a b : Float) : (double a b).compare? =
    Option.map₂ compare (Numeric.binaryOfDouble a).units? (Numeric.binaryOfDouble b).units? := by
  have hunits : ∀ a b : Float, a.toModel.unpack.compare b.toModel.unpack =
      Option.map₂ compare (Numeric.binaryOfDouble a).units? (Numeric.binaryOfDouble b).units? :=
    fun a b => compare_unpack BinaryFormat.double_matches a.toModel.toBits.toBitVec
      b.toModel.toBits.toBitVec
  have hlt : ∀ a b : Float, decide (a < b) =
      (a.toModel.unpack.compare b.toModel.unpack == some .lt) :=
    fun _ _ => Bool.decide_eq_true.trans Bool.decide_eq_true
  have heq : (a == b) = (a.toModel.unpack.compare b.toModel.unpack == some .eq) := rfl
  rw [compare?, hlt, hlt, heq, hunits, hunits, floatOrder_units]

end NumericPair

/-! ## Words of the double format -/

namespace BinaryNumber

variable {f : BinaryFormat}

/-- The number of a word that is put together from a sign, an exponent and a fraction. -/
lemma ofWord_fields (negative : Bool) {e n : Nat} (he : e < 2 ^ f.exponentBits)
    (hn : n < 2 ^ (f.precision - 1)) :
    ofWord f (((if negative then 2 ^ f.exponentBits else 0) + e) * 2 ^ (f.precision - 1) + n) =
      if e = 2 ^ f.exponentBits - 1 then if n = 0 then infinite negative else nan
      else if e = 0 then finite negative n f.minExponent
      else finite negative (2 ^ (f.precision - 1) + n) (f.minExponent + (e - 1)) := by
  have hunit : 0 < 2 ^ (f.precision - 1) := Nat.two_pow_pos _
  have htop : 0 < 2 ^ f.exponentBits := Nat.two_pow_pos _
  have hfraction : ∀ i, (i * 2 ^ (f.precision - 1) + n) % 2 ^ (f.precision - 1) = n := by
    intro i
    rw [Nat.mul_add_mod', Nat.mod_eq_of_lt hn]
  have hquotient : ∀ i, (i * 2 ^ (f.precision - 1) + n) / 2 ^ (f.precision - 1) = i := by
    intro i
    rw [Nat.mul_comm, Nat.mul_add_div hunit, Nat.div_eq_of_lt hn, Nat.add_zero]
  have hexponent : ((if negative then 2 ^ f.exponentBits else 0) + e) % 2 ^ f.exponentBits = e := by
    split <;> simp [Nat.mod_eq_of_lt he]
  have hsign : decide (((if negative then 2 ^ f.exponentBits else 0) + e) / 2 ^ f.exponentBits
      % 2 = 1) = negative := by
    cases negative
    · simp [Nat.div_eq_of_lt he]
    · simp [Nat.add_div_left _ htop, Nat.div_eq_of_lt he]
  simp only [ofWord, Nat.pow_eq, hfraction, hquotient, hexponent, hsign]

/-- The word of a number of the double format encodes this number. -/
lemma ofWord_toWord {x : BinaryNumber} (hx : x.IsCanonical .double) :
    ofWord .double (x.toWord .double) = x ∧ x.toWord .double < 2 ^ 64 := by
  have hmin : BinaryFormat.double.minExponent = -1074 := rfl
  have hmax : BinaryFormat.double.maxExponent = 971 := rfl
  have hunit : 2 ^ (BinaryFormat.double.precision - 1) = 4503599627370496 := rfl
  have hfull : 2 ^ BinaryFormat.double.precision = 9007199254740992 := rfl
  have htop : 2 ^ BinaryFormat.double.exponentBits = 2048 := by decide
  cases x with
  | nan => decide
  | infinite negative => cases negative <;> decide
  | finite negative m q =>
    obtain ⟨hm, hq, hq', hsignificand⟩ := hx
    have hsign : (if negative then 2 ^ BinaryFormat.double.exponentBits else 0) ≤ 2048 := by
      rw [htop]
      split <;> omega
    rw [toWord]
    dsimp only
    rw [Nat.pow_eq, Nat.pow_eq]
    by_cases hsmall : m < 2 ^ (BinaryFormat.double.precision - 1)
    -- only the smallest exponent leaves bits of the significand unused
    · have hleast : q = BinaryFormat.double.minExponent := by
        by_contra hne
        exact absurd (hsignificand (by omega)) (by omega)
      rw [if_pos hsmall]
      refine ⟨?_, by rw [hunit]; omega⟩
      rw [ofWord_fields negative (by omega) hsmall, if_neg (by omega), if_pos rfl, hleast]
    · rw [if_neg hsmall]
      refine ⟨?_, by rw [hunit]; omega⟩
      rw [ofWord_fields negative (by omega) (by omega), if_neg (by omega), if_neg (by omega)]
      exact congrArg₂ (finite negative) (by omega) (by omega)

end BinaryNumber

namespace Numeric

open BinaryNumber

/-- A number of the double format is what the double of it encodes. -/
lemma binaryOfDouble_doubleOfBinary {x : BinaryNumber} (hx : x.IsCanonical .double) :
    binaryOfDouble (doubleOfBinary x) = x := by
  obtain ⟨hword, hlt⟩ := ofWord_toWord hx
  let b : BitVec Float.Model.Format.binary64.numBits := (x.toWord .double).toUInt64.toBitVec
  have hb : b.toNat = x.toWord .double := Nat.mod_eq_of_lt hlt
  have hpacked : binaryOfDouble (doubleOfBinary x) = ofWord .double
      (UnpackedFloat.pack .binary64 (UnpackedFloat.unpack .binary64 b)).toNat := rfl
  have hx' : ofUnpacked .double (UnpackedFloat.unpack .binary64 b) = x := by
    rw [ofUnpacked_unpack BinaryFormat.double_matches, hb, hword]
  rw [hpacked]
  by_cases hnan : UnpackedFloat.unpack .binary64 b = .notANumber
  · rw [hnan] at hx' ⊢
    rw [← hx']
    decide
  · rw [pack_unpack (by decide) hnan, hb, hword]

end Numeric

/-! ## Promotion -/

namespace BinaryNumber

lemma scale_eq (num den : Nat) (e : Int) :
    scale num den e = (num * 2 ^ e.toNat, den * 2 ^ (-e).toNat) := by
  rw [scale]
  split
  · rw [Int.toNat_of_nonpos (by omega : -e ≤ 0), Nat.pow_zero, Nat.mul_one]
    rfl
  · rw [Int.toNat_of_nonpos (by omega : e ≤ 0), Nat.pow_zero, Nat.mul_one]
    rfl

/-- Rounding changes no integer. -/
lemma roundHalfEven_mul {n den : Nat} (hden : 0 < den) : roundHalfEven (n * den) den = n := by
  rw [roundHalfEven, Nat.mul_div_cancel n hden, Nat.mul_mod_left]
  simp [hden]

lemma log2_mul_two_pow {m : Nat} (hm : m ≠ 0) (n : Nat) : (m * 2 ^ n).log2 = m.log2 + n := by
  rw [Nat.log2_eq_iff (Nat.mul_ne_zero hm (Nat.two_pow_pos n).ne'), Nat.pow_add,
    Nat.add_right_comm, Nat.pow_add]
  exact ⟨Nat.mul_le_mul_right _ (Nat.log2_self_le hm),
    Nat.mul_lt_mul_of_pos_right Nat.lt_log2_self (Nat.two_pow_pos n)⟩

/-- The leading bit of a number. -/
lemma logFloor_eq {m : Nat} (hm : m ≠ 0) (q : Int) :
    logFloor (m * 2 ^ q.toNat) (1 * 2 ^ (-q).toNat) = m.log2 + q := by
  have hlog : ((m * 2 ^ q.toNat).log2 : Int) - (1 * 2 ^ (-q).toNat).log2 = m.log2 + q := by
    rw [log2_mul_two_pow hm, Nat.one_mul, Nat.log2_two_pow]
    omega
  rw [logFloor, hlog]
  dsimp only
  rw [scale_eq]
  refine if_pos ?_
  have hexponent : (-q).toNat + (- -(m.log2 + q)).toNat =
      m.log2 + (q.toNat + (-(m.log2 + q)).toNat) := by omega
  calc 1 * 2 ^ (-q).toNat * 2 ^ (- -(m.log2 + q : Int)).toNat
      = 2 ^ m.log2 * 2 ^ (q.toNat + (-(m.log2 + q : Int)).toNat) := by
        rw [Nat.one_mul, ← Nat.pow_add, hexponent, Nat.pow_add]
    _ ≤ m * 2 ^ (q.toNat + (-(m.log2 + q : Int)).toNat) :=
        Nat.mul_le_mul_right _ (Nat.log2_self_le hm)
    _ = m * 2 ^ q.toNat * 2 ^ (-(m.log2 + q : Int)).toNat := by rw [Nat.pow_add, Nat.mul_assoc]

/-- A significand that is moved up to the full precision of the double format. -/
lemma significand_bounds {m : Nat} (hm : m ≠ 0) (hbits : m.log2 ≤ 52) :
    2 ^ 52 ≤ m * 2 ^ (52 - m.log2) ∧ m * 2 ^ (52 - m.log2) < 2 ^ 53 := by
  have hlog : (m * 2 ^ (52 - m.log2)).log2 = 52 := by
    rw [log2_mul_two_pow hm, Nat.add_sub_cancel' hbits]
  rwa [Nat.log2_eq_iff (Nat.mul_ne_zero hm (Nat.two_pow_pos _).ne')] at hlog

/-- A number that needs no more bits than the double format has is rounded to itself, with all bits
of the significand in use. -/
lemma round_double {m : Nat} {q : Int} (negative : Bool) (hm : m ≠ 0) (hbits : m.log2 ≤ 52)
    (hlow : -1022 ≤ m.log2 + q) (hhigh : m.log2 + q ≤ 1023) :
    round .double (finite negative m q) =
      finite negative (m * 2 ^ (52 - m.log2)) (m.log2 + q - 52) := by
  have hmin : BinaryFormat.double.minExponent = -1074 := rfl
  have hmax : BinaryFormat.double.maxExponent = 971 := rfl
  have hprecision : BinaryFormat.double.precision = 53 := rfl
  have hnum : m * 2 ^ q.toNat ≠ 0 := Nat.mul_ne_zero hm (Nat.two_pow_pos _).ne'
  have hq : max (-1074) ((m.log2 : Int) + q - ((53 : Nat) - 1)) = m.log2 + q - 52 := by omega
  have hscaled : m * 2 ^ q.toNat * 2 ^ (-((m.log2 : Int) + q - 52)).toNat =
      m * 2 ^ (52 - m.log2) * (1 * 2 ^ (-q).toNat * 2 ^ (- -((m.log2 : Int) + q - 52)).toNat) := by
    rw [Nat.one_mul, Nat.mul_assoc, Nat.mul_assoc, ← Nat.pow_add, ← Nat.pow_add, ← Nat.pow_add]
    refine congrArg (m * 2 ^ ·) ?_
    omega
  have hlt := (significand_bounds hm hbits).2
  rw [round, scale_eq]
  dsimp only
  rw [ofQuotient, if_neg hnum, logFloor_eq hm, hmin, hprecision, hq]
  dsimp only
  rw [scale_eq]
  dsimp only
  rw [hscaled, roundHalfEven_mul (by positivity), Nat.pow_eq, if_neg hlt.ne, if_neg (by omega)]

/-- A number of the single format is a number of the double format. -/
lemma isCanonical_round_double {x : BinaryNumber} (hx : x.IsCanonical .single) :
    (x.round .double).IsCanonical .double ∧ (x.round .double).units? = x.units? := by
  cases x with
  | nan => exact ⟨trivial, rfl⟩
  | infinite negative => exact ⟨trivial, rfl⟩
  | finite negative m q =>
    obtain ⟨hbits, hlow, hhigh, -⟩ := hx
    change m < 2 ^ 24 at hbits
    change (-149 : Int) ≤ q at hlow
    change q ≤ (104 : Int) at hhigh
    by_cases hm : m = 0
    · subst hm
      rw [round, scale_eq]
      dsimp only
      rw [Nat.zero_mul, ofQuotient, if_pos rfl, units?, units?, Nat.zero_mul, Nat.zero_mul]
      exact ⟨⟨by decide, by decide, by decide, fun h => absurd h (by decide)⟩, rfl⟩
    · have hlog : m.log2 < 24 := (Nat.log2_lt hm).2 hbits
      obtain ⟨hfull, hlt⟩ := significand_bounds hm (by omega : m.log2 ≤ 52)
      rw [round_double negative hm (by omega) (by omega) (by omega)]
      refine ⟨⟨hlt, ?_, ?_, fun _ => hfull⟩, ?_⟩
      · show (-1074 : Int) ≤ _
        omega
      · show _ ≤ (971 : Int)
        omega
      · rw [units?, units?, Nat.mul_assoc, ← Nat.pow_add]
        refine congrArg (fun n => some (Digits.signed negative (m * 2 ^ n))) ?_
        omega

end BinaryNumber

namespace Numeric

open BinaryNumber

/-- Double precision keeps the value of a number of single precision. -/
theorem units?_toDouble (x : Float32) :
    (binaryOfDouble (toDouble (single x))).units? = (binaryOfSingle x).units? := by
  have hx : (binaryOfSingle x).IsCanonical .single :=
    isCanonical_ofWord BinaryFormat.single_matches _
  obtain ⟨hcanonical, hunits⟩ := isCanonical_round_double hx
  rw [toDouble, binaryOfDouble_doubleOfBinary hcanonical, hunits]

end Numeric

end SparqlStream
