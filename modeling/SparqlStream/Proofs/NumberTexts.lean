import Mathlib.Data.List.DropRight
import Mathlib.Data.List.TakeWhile
import Mathlib.Tactic
import SparqlStream.Proofs.ExactNumbers

/-!
# Texts of exact numbers

`Digits.rational?` is the meaning of decimal notation: the digits of a text as one number, divided
by a power of ten for the digits behind the point.  It knows no bounds and no kinds of numbers.

What is read as an integer or as a decimal denotes this number (`Literal.IsExactly.rational?_eq`).
And what is written for an integer or a decimal is read as the same number again, at both ends of
its range and with any fraction (`Numeric.IsExactly.ofLiteral?_toLiteral`).  Zeros at the end of a
fraction are dropped in both directions; `Digits.toNat_append_zeros` says that they stand for powers
of ten.
-/

namespace SparqlStream

/-! ## Digits -/

namespace Digits

/-- The rational number that a text denotes: an optional sign, and at least one digit with at most
one point before, between or behind the digits. -/
def rational? (text : List Char) : Option ℚ :=
  let (negative, body) := sign text
  let whole := body.takeWhile (· ≠ '.')
  let fraction := (body.dropWhile (· ≠ '.')).tail
  if whole ++ fraction ≠ [] ∧ (whole ++ fraction).all Char.isDigit then
    some ((signed negative (toNat (whole ++ fraction)) : ℚ) / 10 ^ fraction.length)
  else none

variable {negative : Bool} {text ds es : List Char}

lemma toNat_append (ds es : List Char) :
    toNat (ds ++ es) = toNat ds * 10 ^ es.length + toNat es := by
  rw [toNat, Nat.ofDigitChars_append, Nat.ofDigitChars_eq_ofDigitChars_zero, Nat.mul_comm]
  rfl

lemma toNat_append_zeros (ds : List Char) (k : ℕ) :
    toNat (ds ++ List.replicate k '0') = toNat ds * 10 ^ k := by
  rw [toNat, Nat.ofDigitChars_append, Nat.ofDigitChars_replicate_zero, Nat.mul_comm]
  rfl

lemma toNat_zeros_append (k : ℕ) (ds : List Char) :
    toNat (List.replicate k '0' ++ ds) = toNat ds := by
  rw [toNat, Nat.ofDigitChars_append, Nat.ofDigitChars_replicate_zero, Nat.mul_zero]
  rfl

/-- Only zeros are dropped at the end of a text. -/
lemma exists_trimZeros (cs : List Char) : ∃ k, cs = trimZeros cs ++ List.replicate k '0' := by
  have hmem : ∀ c ∈ cs.rtakeWhile (· = '0'), c = '0' := by
    intro c hc
    have hzero := List.mem_rtakeWhile_imp hc
    exact of_decide_eq_true hzero
  refine ⟨(cs.rtakeWhile (· = '0')).length, ?_⟩
  rw [← List.eq_replicate_of_mem hmem]
  exact List.rdropWhile_append_rtakeWhile.symm

lemma trimZeros_trimZeros (cs : List Char) : trimZeros (trimZeros cs) = trimZeros cs :=
  List.rdropWhile_idempotent _ cs

lemma isDigit_ofNat (n : ℕ) : ∀ c ∈ ofNat n, c.isDigit = true :=
  fun _ hc => Nat.isDigit_of_mem_toDigits (by decide) le_rfl hc

lemma ofNat_ne_nil (n : ℕ) : ofNat n ≠ [] := Nat.toDigits_ne_nil

lemma sign_of_isDigit (hds : ∀ c ∈ ds, c.isDigit = true) (hne : ds ≠ []) :
    sign (ds ++ es) = (false, ds ++ es) := by
  cases ds with
  | nil => exact absurd rfl hne
  | cons c ds =>
    have hc := hds c List.mem_cons_self
    rw [List.cons_append, sign]
    · rintro ds' ⟨⟩
      exact absurd hc (by decide)
    · rintro ds' ⟨⟩
      exact absurd hc (by decide)

lemma signed_mul (negative : Bool) (m n : ℕ) :
    signed negative (m * n) = signed negative m * (n : Int) := by
  cases negative <;> simp [signed]

lemma signed_natAbs (i : Int) : signed (decide (i < 0)) i.natAbs = i := by
  by_cases hi : i < 0
  · rw [decide_eq_true hi, signed, if_pos rfl]
    omega
  · rw [decide_eq_false hi, signed, if_neg Bool.false_ne_true]
    omega

lemma ne_point_of_isDigit (hds : ∀ c ∈ ds, c.isDigit = true) :
    ∀ c ∈ ds, decide (c ≠ '.') = true := by
  intro c hc
  refine decide_eq_true ?_
  rintro rfl
  exact absurd (hds _ hc) (by decide)

/-- Digits without a point. -/
lemma rational?_of_digits (hsign : sign text = (negative, ds)) (hds : ∀ c ∈ ds, c.isDigit = true)
    (hne : ds ≠ []) : rational? text = some (signed negative (toNat ds) : ℚ) := by
  have hpoint := ne_point_of_isDigit hds
  have hwhole : ds.takeWhile (· ≠ '.') = ds := List.takeWhile_eq_self_iff.2 hpoint
  have hrest : ds.dropWhile (· ≠ '.') = [] := List.dropWhile_eq_nil_iff.2 hpoint
  unfold rational?
  rw [hsign]
  dsimp only
  rw [hwhole, hrest, List.tail_nil, List.append_nil, if_pos ⟨hne, List.all_eq_true.2 hds⟩]
  simp

/-- Digits on both sides of a point. -/
lemma rational?_of_point (hsign : sign text = (negative, ds ++ '.' :: es))
    (hds : ∀ c ∈ ds, c.isDigit = true) (hes : ∀ c ∈ es, c.isDigit = true) (hne : ds ++ es ≠ []) :
    rational? text = some ((signed negative (toNat (ds ++ es)) : ℚ) / 10 ^ es.length) := by
  have hpoint := ne_point_of_isDigit hds
  have hwhole : (ds ++ '.' :: es).takeWhile (· ≠ '.') = ds := by
    rw [List.takeWhile_append_of_pos hpoint]
    simp
  have hrest : (ds ++ '.' :: es).dropWhile (· ≠ '.') = '.' :: es := by
    rw [List.dropWhile_append_of_pos hpoint]
    simp
  have hall : (ds ++ es).all Char.isDigit = true :=
    List.all_eq_true.2 (List.forall_mem_append.2 ⟨hds, hes⟩)
  unfold rational?
  rw [hsign]
  dsimp only
  rw [hwhole, hrest, List.tail_cons, if_pos ⟨hne, hall⟩]

/-! ### Integers -/

/-- An integer that is read is the number that the text denotes. -/
lemma rational?_of_toInt? {i : Int} (h : toInt? text = some i) : rational? text = some (i : ℚ) := by
  obtain ⟨negative, ds, hsign⟩ : ∃ negative ds, sign text = (negative, ds) := ⟨_, _, rfl⟩
  unfold toInt? at h
  rw [hsign] at h
  dsimp only at h
  split at h
  · next hds =>
    cases h
    exact rational?_of_digits hsign (List.all_eq_true.1 hds.2) hds.1
  · cases h

lemma toInt?_ofInt (i : Int) : toInt? (ofInt i) = some i := by
  have hsign : sign (ofInt i) = (decide (i < 0), ofNat i.natAbs) := by
    unfold ofInt
    by_cases hi : i < 0
    · rw [if_pos hi, decide_eq_true hi, sign]
    · have hplain : sign (ofNat i.natAbs ++ []) = (false, ofNat i.natAbs ++ []) :=
        sign_of_isDigit (isDigit_ofNat _) (ofNat_ne_nil _)
      rw [List.append_nil] at hplain
      rw [if_neg hi, decide_eq_false hi, hplain]
  unfold toInt?
  rw [hsign]
  dsimp only
  rw [if_pos ⟨ofNat_ne_nil _, List.all_eq_true.2 (isDigit_ofNat _)⟩, toNat_ofNat, signed_natAbs]

end Digits

/-! ## Decimals -/

namespace Decimal

open Digits

variable {negative : Bool} {text ds es : List Char} {d : Decimal}

/-! ### Reading -/

/-- Reading takes digits from the front, up to the end or to a point. -/
lemma exists_of_parse? (h : parse? text = some d) :
    ∃ negative ds, (∀ c ∈ ds, c.isDigit = true) ∧
      (sign text = (negative, ds) ∧ ds ≠ [] ∨
        ∃ es, sign text = (negative, ds ++ '.' :: es) ∧ ds ++ es ≠ []) := by
  obtain ⟨negative, body, hsign⟩ : ∃ negative body, sign text = (negative, body) := ⟨_, _, rfl⟩
  obtain ⟨ds, rest, hspan⟩ : ∃ ds rest, span body = (ds, rest) := ⟨_, _, rfl⟩
  have hds : ∀ c ∈ ds, c.isDigit = true := by
    cases hspan
    exact fun c hc => List.mem_takeWhile_imp hc
  have hbody : body = ds ++ rest := by
    cases hspan
    exact List.takeWhile_append_dropWhile.symm
  unfold parse? at h
  rw [hsign] at h
  dsimp only at h
  rw [hspan] at h
  dsimp only at h
  refine ⟨negative, ds, hds, ?_⟩
  rw [hsign, hbody]
  split at h
  · split at h
    · cases h
    · next hne => exact .inl ⟨by rw [List.append_nil], hne⟩
  · next es =>
    split at h
    · cases h
    · next hne => exact .inr ⟨es, rfl, fun hnil => hne (List.append_eq_nil_iff.1 hnil)⟩
  · cases h

lemma parse?_of_digits (hsign : sign text = (negative, ds)) (hds : ∀ c ∈ ds, c.isDigit = true)
    (hne : ds ≠ []) :
    parse? text = ofScaled? (signed negative (toNat ds * 10 ^ places)) := by
  have hspan : span ds = (ds, []) := by
    rw [span, List.takeWhile_eq_self_iff.2 hds, List.dropWhile_eq_nil_iff.2 hds]
  unfold parse?
  rw [hsign]
  dsimp only
  rw [hspan]
  exact if_neg hne

lemma parse?_of_point (hsign : sign text = (negative, ds ++ '.' :: es))
    (hds : ∀ c ∈ ds, c.isDigit = true) (hne : ds ++ es ≠ []) :
    parse? text =
      if (trimZeros es).all Char.isDigit ∧ (trimZeros es).length ≤ places then
        ofScaled? (signed negative
          (toNat (ds ++ trimZeros es) * 10 ^ (places - (trimZeros es).length)))
      else none := by
  have hspan : span (ds ++ '.' :: es) = (ds, '.' :: es) := by
    rw [span, List.takeWhile_append_of_pos hds, List.dropWhile_append_of_pos hds]
    simp [Char.isDigit]
  unfold parse?
  rw [hsign]
  dsimp only
  rw [hspan]
  exact if_neg fun hnil => hne (List.append_eq_nil_iff.2 hnil)

/-- A decimal that is read is the number that the text denotes. -/
theorem rational?_of_parse? (h : parse? text = some d) : rational? text = some d.toRat := by
  obtain ⟨negative, ds, hds, ⟨hsign, hne⟩ | ⟨es, hsign, hne⟩⟩ := exists_of_parse? h
  · rw [parse?_of_digits hsign hds hne, ofScaled?_eq_some, signed_mul] at h
    rw [rational?_of_digits hsign hds hne, toRat, h]
    push_cast
    rw [mul_div_cancel_right₀ _ ten_pow_pos.ne']
  · rw [parse?_of_point hsign hds hne] at h
    split at h
    · next hfraction =>
      obtain ⟨hdigits, hlength⟩ := hfraction
      obtain ⟨k, hzeros⟩ := exists_trimZeros es
      generalize trimZeros es = fs at h hdigits hlength hzeros
      subst hzeros
      have hes : ∀ c ∈ fs ++ List.replicate k '0', c.isDigit = true := by
        refine List.forall_mem_append.2 ⟨List.all_eq_true.1 hdigits, fun c hc => ?_⟩
        rw [List.eq_of_mem_replicate hc]
        decide
      have hplaces : (10 : ℚ) ^ places = 10 ^ (places - fs.length) * 10 ^ fs.length := by
        rw [← pow_add, Nat.sub_add_cancel hlength]
      rw [ofScaled?_eq_some, signed_mul] at h
      rw [rational?_of_point hsign hds hes hne, ← List.append_assoc, toNat_append_zeros, signed_mul,
        List.length_append, List.length_replicate, toRat, h, hplaces, pow_add]
      push_cast
      rw [mul_div_mul_right _ _ (by positivity), mul_comm (_ : ℚ) (10 ^ fs.length),
        mul_div_mul_right _ _ (by positivity)]
    · cases h

/-! ### Writing -/

lemma length_padded {n : ℕ} (h : n < 10 ^ places) : (padded places n).length = places := by
  have hcount : count n ≤ places := (Nat.length_toDigits_le_iff (by decide) (by decide)).2 h
  rw [padded, List.length_append, List.length_replicate]
  exact Nat.sub_add_cancel hcount

lemma toNat_padded (width n : ℕ) : toNat (padded width n) = n := by
  rw [padded, toNat_zeros_append, toNat_ofNat]

lemma isDigit_padded (width n : ℕ) : ∀ c ∈ padded width n, c.isDigit = true := by
  refine List.forall_mem_append.2 ⟨fun c hc => ?_, isDigit_ofNat n⟩
  rw [List.eq_of_mem_replicate hc]
  decide

/-- What is written behind the point are the padded digits, up to zeros at their end. -/
lemma trimZeros_fractionText (n : ℕ) :
    trimZeros (fractionText n) = trimZeros (padded places n) := by
  unfold fractionText
  split
  · next hnil =>
    rw [hnil]
    rfl
  · exact trimZeros_trimZeros _

lemma sign_render (d : Decimal) :
    sign d.render = (decide (d.scaled.toInt < 0), ofNat (d.scaled.toInt.natAbs / 10 ^ places) ++
      '.' :: fractionText (d.scaled.toInt.natAbs % 10 ^ places)) := by
  unfold render
  by_cases hneg : d.scaled.toInt < 0
  · rw [if_pos hneg, decide_eq_true hneg]
    rfl
  · rw [if_neg hneg, decide_eq_false hneg]
    exact sign_of_isDigit (isDigit_ofNat _) (ofNat_ne_nil _)

/-- A decimal that is written is read as the same decimal. -/
theorem parse?_render (d : Decimal) : parse? d.render = some d := by
  have hne : ofNat (d.scaled.toInt.natAbs / 10 ^ places) ++
      fractionText (d.scaled.toInt.natAbs % 10 ^ places) ≠ [] :=
    List.append_ne_nil_of_left_ne_nil (ofNat_ne_nil _) _
  rw [parse?_of_point (sign_render d) (isDigit_ofNat _) hne, trimZeros_fractionText]
  have hlt : d.scaled.toInt.natAbs % 10 ^ places < 10 ^ places :=
    Nat.mod_lt _ (Nat.pow_pos (by decide))
  have hlength := length_padded hlt
  have hdigits := isDigit_padded places (d.scaled.toInt.natAbs % 10 ^ places)
  have hnumber := toNat_append (ofNat (d.scaled.toInt.natAbs / 10 ^ places))
    (padded places (d.scaled.toInt.natAbs % 10 ^ places))
  rw [hlength, toNat_ofNat, toNat_padded, Nat.div_add_mod'] at hnumber
  obtain ⟨k, hzeros⟩ := exists_trimZeros (padded places (d.scaled.toInt.natAbs % 10 ^ places))
  generalize trimZeros (padded places (d.scaled.toInt.natAbs % 10 ^ places)) = fs at hzeros ⊢
  rw [hzeros, List.length_append, List.length_replicate] at hlength
  rw [hzeros, ← List.append_assoc, toNat_append_zeros] at hnumber
  rw [hzeros] at hdigits
  have hfraction : fs.all Char.isDigit = true ∧ fs.length ≤ places :=
    ⟨List.all_eq_true.2 fun c hc => hdigits c (List.mem_append_left _ hc), by omega⟩
  have hk : places - fs.length = k := by omega
  rw [if_pos hfraction, ofScaled?_eq_some, hk, hnumber, signed_natAbs]

end Decimal

/-! ## Literals -/

/-- A literal that is read as a number of an exact kind, and the rational number that this is. -/
def Literal.IsExactly (l : Literal) (k : ExactKind) (x : ℚ) : Prop :=
  ∃ n, Numeric.ofLiteral? l = some n ∧ n.IsExactly k x

lemma Literal.IsExactly.unique {l : Literal} {k k' : ExactKind} {x y : ℚ} (h : l.IsExactly k x)
    (h' : l.IsExactly k' y) : k = k' ∧ x = y := by
  obtain ⟨n, hn, hx⟩ := h
  obtain ⟨n', hn', hy⟩ := h'
  cases hn.symm.trans hn'
  cases hx with
  | integer hx =>
    cases hy with
    | integer hy => exact ⟨rfl, hx.symm.trans hy⟩
  | decimal hx =>
    cases hy with
    | decimal hy => exact ⟨rfl, hx.symm.trans hy⟩

/-- The number that is read is the one that the lexical form denotes. -/
theorem Literal.IsExactly.rational?_eq {l : Literal} {k : ExactKind} {x : ℚ}
    (h : l.IsExactly k x) : Digits.rational? l.value.toList = some x := by
  obtain ⟨n, hn, hexact⟩ := h
  unfold Numeric.ofLiteral? at hn
  split at hn
  · obtain ⟨i, hi, hn⟩ := Option.bind_eq_some_iff.1 hn
    obtain ⟨a, ha, rfl⟩ := Option.map_eq_some_iff.1 hn
    cases hexact with
    | integer hx => rw [Digits.rational?_of_toInt? hi, ← hx, Signed.ofInt?_eq_some.1 ha]
  · split at hn
    · obtain ⟨d, hd, rfl⟩ := Option.map_eq_some_iff.1 hn
      cases hexact with
      | decimal hx => rw [Decimal.rational?_of_parse? hd, hx]
    · split at hn
      · obtain ⟨b, -, rfl⟩ := Option.map_eq_some_iff.1 hn
        cases hexact
      · split at hn
        · obtain ⟨b, -, rfl⟩ := Option.map_eq_some_iff.1 hn
          cases hexact
        · cases hn

namespace Numeric

variable {l : Literal}

lemma isInteger_integer : Xsd.isInteger Xsd.integer = true := by decide +kernel

lemma isInteger_decimal : ¬ Xsd.isInteger Xsd.decimal = true := by decide +kernel

lemma ofLiteral?_of_isInteger (h : Xsd.isInteger l.datatype = true) :
    ofLiteral? l = (Digits.toInt? l.value.toList).bind fun i => (Signed.ofInt? i).map integer := by
  unfold ofLiteral?
  rw [if_pos h]

lemma ofLiteral?_of_decimal (h : l.datatype = Xsd.decimal) :
    ofLiteral? l = (Decimal.parse? l.value.toList).map decimal := by
  have hdatatype : ¬ Xsd.isInteger l.datatype = true := by
    rw [h]
    exact isInteger_decimal
  unfold ofLiteral?
  rw [if_neg hdatatype, if_pos h]

/-- The literal of an exact number is read as the same number. -/
theorem IsExactly.ofLiteral?_toLiteral {n : Numeric} {k : ExactKind} {x : ℚ}
    (h : n.IsExactly k x) : ofLiteral? n.toLiteral = some n := by
  cases h with
  | @integer i _ _ =>
    have hdatatype : Xsd.isInteger (toLiteral (.integer i)).datatype = true := isInteger_integer
    have htext : (toLiteral (.integer i)).value.toList = Digits.ofInt i.toInt :=
      String.toList_ofList
    rw [ofLiteral?_of_isInteger hdatatype, htext, Digits.toInt?_ofInt, Option.bind_some,
      Signed.ofInt?_toInt, Option.map_some]
  | @decimal d _ _ =>
    have htext : (toLiteral (.decimal d)).value.toList = d.render := String.toList_ofList
    rw [ofLiteral?_of_decimal rfl, htext, Decimal.parse?_render, Option.map_some]

end Numeric

namespace Literal

variable {l : Literal}

/-- Literals of all integer datatypes are integers if their text is one that fits a word. -/
lemma isExactly_integer {i : Int} (hl : Xsd.isInteger l.datatype = true)
    (hi : Digits.toInt? l.value.toList = some i) (hfits : Signed.Fits 64 i) :
    l.IsExactly .integer i := by
  refine ⟨.integer ⟨i, hfits⟩, ?_, .integer rfl⟩
  rw [Numeric.ofLiteral?_of_isInteger hl, hi, Option.bind_some, Option.map_eq_some_iff]
  exact ⟨⟨i, hfits⟩, Signed.ofInt?_toInt ⟨i, hfits⟩, rfl⟩

lemma isExactly_decimal {d : Decimal} (hl : l.datatype = Xsd.decimal)
    (hd : Decimal.parse? l.value.toList = some d) : l.IsExactly .decimal d.toRat := by
  refine ⟨.decimal d, ?_, .decimal rfl⟩
  rw [Numeric.ofLiteral?_of_decimal hl, hd, Option.map_some]

end Literal

end SparqlStream
