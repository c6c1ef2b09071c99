import Mathlib.Data.List.DropRight
import Mathlib.Tactic
import SparqlStream.Proofs.NumberTexts

/-!
# Canonical texts of exact numbers

An integer and a decimal have many texts, but only one canonical text: a sign stands in front of
negative numbers only, the digits in front of the point do not begin with a zero unless it is the
only one, and the digits behind the point do not end with a zero unless it is the only one.  That
there is no second one (`Digits.IsCanonical.unique`) needs no reader: two texts of digits of the same
length denote different numbers unless they are the same (`Digits.eq_of_toNat_eq`), and two texts of
one number can be made equally long by zeros.

What is written for an exact number is canonical and is read as this number again.  So literals that
are read as numbers of one kind have the same value if and only if the same literal is written for
them: `Numeric.roundTrips_exactly`.
-/

namespace SparqlStream

namespace Digits

variable {ds es ds' es' text text' : List Char} {m n : ℕ} {negative negative' : Bool}
  {k : ExactKind}

/-! ## Texts of equal length -/

lemma toNat_singleton (c : Char) : toNat [c] = c.toNat - 48 := by
  show 10 * 0 + (c.toNat - 48) = _
  rw [Nat.mul_zero, Nat.zero_add]

/-- The digits are the characters from 48 to 57. -/
lemma bounds_of_isDigit {c : Char} (hc : c.isDigit = true) : 48 ≤ c.toNat ∧ c.toNat ≤ 57 :=
  Char.isDigit_iff_toNat.1 hc

lemma toNat_singleton_lt {c : Char} (hc : c.isDigit = true) : toNat [c] < 10 := by
  have h := bounds_of_isDigit hc
  rw [toNat_singleton]
  omega

lemma eq_of_toNat_singleton_eq {c c' : Char} (hc : c.isDigit = true) (hc' : c'.isDigit = true)
    (h : toNat [c] = toNat [c']) : c = c' := by
  have hbounds := bounds_of_isDigit hc
  have hbounds' := bounds_of_isDigit hc'
  rw [toNat_singleton, toNat_singleton] at h
  exact Char.toNat_inj.1 (by omega)

lemma toNat_concat (ds : List Char) (c : Char) : toNat (ds ++ [c]) = toNat ds * 10 + toNat [c] := by
  rw [toNat_append, List.length_singleton, pow_one]

lemma toNat_lt (hds : ∀ c ∈ ds, c.isDigit = true) : toNat ds < 10 ^ ds.length := by
  induction ds using List.reverseRecOn with
  | nil => exact Nat.one_pos
  | append_singleton ds c ih =>
    obtain ⟨hds, hc⟩ := List.forall_mem_append.1 hds
    have hdigit := toNat_singleton_lt (hc c List.mem_cons_self)
    have hlt := ih hds
    rw [toNat_concat, List.length_append, List.length_singleton, pow_succ]
    omega

/-- Digits of the same length denote the same number only if they are the same. -/
theorem eq_of_toNat_eq (hds : ∀ c ∈ ds, c.isDigit = true) (hes : ∀ c ∈ es, c.isDigit = true)
    (hlength : ds.length = es.length) (h : toNat ds = toNat es) : ds = es := by
  induction ds using List.reverseRecOn generalizing es with
  | nil => exact (List.length_eq_zero_iff.1 hlength.symm).symm
  | append_singleton ds c ih =>
    cases es using List.reverseRecOn with
    | nil => simp at hlength
    | append_singleton es c' =>
      obtain ⟨hds, hc⟩ := List.forall_mem_append.1 hds
      obtain ⟨hes, hc'⟩ := List.forall_mem_append.1 hes
      rw [List.forall_mem_singleton] at hc hc'
      have hdigit := toNat_singleton_lt hc
      have hdigit' := toNat_singleton_lt hc'
      rw [toNat_concat, toNat_concat] at h
      rw [List.length_append, List.length_append] at hlength
      rw [ih hds hes (Nat.add_right_cancel hlength) (by omega),
        eq_of_toNat_singleton_eq hc hc' (by omega)]

/-- The last digits of a number, as many as there are on both sides, and what is in front of
them. -/
lemma append_inj_of_toNat_eq (hes : ∀ c ∈ es, c.isDigit = true)
    (hes' : ∀ c ∈ es', c.isDigit = true) (hlength : es.length = es'.length)
    (h : toNat (ds ++ es) = toNat (ds' ++ es')) : toNat ds = toNat ds' ∧ es = es' := by
  have hlt := toNat_lt hes
  have hlt' := toNat_lt hes'
  rw [← hlength] at hlt'
  rw [toNat_append, toNat_append, ← hlength] at h
  have hpos : 0 < 10 ^ es.length := Nat.pow_pos (by decide)
  have hsplit := (Nat.div_mod_unique hpos (a := toNat ds * 10 ^ es.length + toNat es)).2
    ⟨by rw [Nat.mul_comm, Nat.add_comm], hlt⟩
  have hsplit' := (Nat.div_mod_unique hpos (a := toNat ds * 10 ^ es.length + toNat es)).2
    ⟨by rw [h, Nat.mul_comm, Nat.add_comm], hlt'⟩
  exact ⟨hsplit.1.symm.trans hsplit'.1,
    eq_of_toNat_eq hes hes' hlength (hsplit.2.symm.trans hsplit'.2)⟩

/-! ## Superfluous zeros -/

/-- Digits without a zero in front, apart from a single zero. -/
structure IsPlain (ds : List Char) : Prop where
  ne_nil : ds ≠ []
  isDigit : ∀ c ∈ ds, c.isDigit = true
  eq_zero : ds.head? = some '0' → ds = ['0']

/-- Digits without a zero at their end, apart from a single zero. -/
structure IsPlainFraction (es : List Char) : Prop where
  ne_nil : es ≠ []
  isDigit : ∀ c ∈ es, c.isDigit = true
  eq_zero : es.getLast? = some '0' → es = ['0']

lemma isDigit_zeros (k : ℕ) : ∀ c ∈ List.replicate k '0', c.isDigit = true := by
  intro c hc
  rw [List.eq_of_mem_replicate hc]
  decide

/-- Numbers have one text without superfluous zeros. -/
lemma IsPlain.unique (h : IsPlain ds) (h' : IsPlain ds') (heq : toNat ds = toNat ds') :
    ds = ds' := by
  wlog hle : ds.length ≤ ds'.length generalizing ds ds'
  · exact (this h' h heq.symm (Nat.le_of_not_le hle)).symm
  obtain ⟨j, hj⟩ := Nat.exists_eq_add_of_le hle
  have hpadded : List.replicate j '0' ++ ds = ds' := by
    refine eq_of_toNat_eq (List.forall_mem_append.2 ⟨isDigit_zeros j, h.isDigit⟩) h'.isDigit ?_ ?_
    · rw [List.length_append, List.length_replicate, hj, Nat.add_comm]
    · rw [toNat_zeros_append, heq]
  cases j with
  | zero => exact hpadded
  | succ j =>
    have hzero : ds' = ['0'] := by
      refine h'.eq_zero ?_
      rw [← hpadded, List.replicate_succ, List.cons_append, List.head?_cons]
    have hlength : ds.length = 0 := by
      rw [hzero, List.length_singleton] at hj
      omega
    exact absurd (List.length_eq_zero_iff.1 hlength) h.ne_nil

lemma isPlain_ofNat (n : ℕ) : IsPlain (ofNat n) where
  ne_nil := ofNat_ne_nil n
  isDigit := isDigit_ofNat n
  eq_zero hhead := by
    obtain ⟨rest, hrest⟩ := List.head?_eq_some_iff.1 hhead
    cases rest with
    | nil => exact hrest
    | cons c rest =>
      -- The digits behind the zero denote the same number, and it has no shorter text.
      have hdigits := isDigit_ofNat n
      rw [hrest, List.forall_mem_cons] at hdigits
      have hnumber : toNat (c :: rest) = n := by
        have hzero : '0' :: c :: rest = List.replicate 1 '0' ++ c :: rest := rfl
        rw [← toNat_zeros_append 1, ← hzero, ← hrest, toNat_ofNat]
      have hlt := toNat_lt hdigits.2
      rw [hnumber] at hlt
      have hshort : (ofNat n).length ≤ (c :: rest).length :=
        (Nat.length_toDigits_le_iff (by decide) (Nat.succ_pos _)).2 hlt
      rw [hrest, List.length_cons] at hshort
      omega

lemma trimZeros_append_zeros (cs : List Char) (k : ℕ) :
    trimZeros (cs ++ List.replicate k '0') = trimZeros cs := by
  induction k with
  | zero => rw [List.replicate_zero, List.append_nil]
  | succ k ih =>
    rw [List.replicate_succ', ← List.append_assoc, ← ih]
    exact List.rdropWhile_concat_pos _ _ _ rfl

/-- Nothing but a single zero is dropped from a fraction without superfluous zeros. -/
lemma IsPlainFraction.eq_trimZeros (h : IsPlainFraction es) :
    es = if trimZeros es = [] then ['0'] else trimZeros es := by
  by_cases hlast : es.getLast? = some '0'
  · rw [h.eq_zero hlast]
    rfl
  · have hself : trimZeros es = es := by
      refine List.rdropWhile_eq_self_iff.2 fun hne hzero => hlast ?_
      rw [List.getLast?_eq_some_getLast hne, of_decide_eq_true hzero]
    rw [hself, if_neg h.ne_nil]

lemma IsPlainFraction.eq_of_append_zeros {i j : ℕ} (h : IsPlainFraction es)
    (h' : IsPlainFraction es') (heq : es ++ List.replicate i '0' = es' ++ List.replicate j '0') :
    es = es' := by
  have htrim : trimZeros es = trimZeros es' := by
    rw [← trimZeros_append_zeros es i, heq, trimZeros_append_zeros]
  rw [h.eq_trimZeros, htrim, ← h'.eq_trimZeros]

lemma isPlainFraction_fractionText (n : ℕ) : IsPlainFraction (Decimal.fractionText n) := by
  unfold Decimal.fractionText
  split
  · exact ⟨by decide, isDigit_zeros 1, fun _ => rfl⟩
  · next hne =>
    have htrim : trimZeros (padded Decimal.places n) <+: padded Decimal.places n :=
      List.rdropWhile_prefix _ _
    refine ⟨hne, fun c hc => Decimal.isDigit_padded _ n c (htrim.subset hc), fun hlast => ?_⟩
    have hnonzero := List.rdropWhile_last_not _ _ hne
    rw [List.getLast?_eq_some_getLast hne, Option.some_inj] at hlast
    exact absurd (decide_eq_true hlast) hnonzero

/-! ## Canonical texts -/

/-- The sign in front of a number: a minus or nothing. -/
def minus (negative : Bool) : List Char := if negative then ['-'] else []

/-- The texts without a superfluous sign and without superfluous zeros. -/
inductive IsCanonical : ExactKind → List Char → Prop
  | integer {negative : Bool} {ds : List Char} (hds : IsPlain ds)
      (hsign : negative = true → toNat ds ≠ 0) : IsCanonical .integer (minus negative ++ ds)
  | decimal {negative : Bool} {ds es : List Char} (hds : IsPlain ds) (hes : IsPlainFraction es)
      (hsign : negative = true → toNat (ds ++ es) ≠ 0) :
      IsCanonical .decimal (minus negative ++ (ds ++ '.' :: es))

lemma sign_minus (hds : IsPlain ds) : sign (minus negative ++ (ds ++ es)) = (negative, ds ++ es) := by
  cases negative with
  | true => rfl
  | false =>
    have hplain : sign (ds ++ es) = (false, ds ++ es) := sign_of_isDigit hds.isDigit hds.ne_nil
    exact hplain

lemma rational?_integer (hds : IsPlain ds) :
    rational? (minus negative ++ ds) = some (signed negative (toNat ds) : ℚ) := by
  have hsign : sign (minus negative ++ (ds ++ [])) = (negative, ds ++ []) := sign_minus hds
  rw [List.append_nil] at hsign
  exact rational?_of_digits hsign hds.isDigit hds.ne_nil

lemma rational?_decimal (hds : IsPlain ds) (hes : IsPlainFraction es) :
    rational? (minus negative ++ (ds ++ '.' :: es)) =
      some ((signed negative (toNat (ds ++ es)) : ℚ) / 10 ^ es.length) :=
  rational?_of_point (sign_minus hds) hds.isDigit hes.isDigit
    (List.append_ne_nil_of_left_ne_nil hds.ne_nil es)

/-- A number has one sign, unless it is zero. -/
lemma signed_inj (h : signed negative m = signed negative' n) (hm : negative = true → m ≠ 0)
    (hn : negative' = true → n ≠ 0) : negative = negative' ∧ m = n := by
  cases negative <;> cases negative' <;> simp [signed] at h hm hn ⊢ <;> omega

/-- Two numbers of the same size, of which one has the digits of the other and more zeros. -/
lemma eq_of_shifted (hes : IsPlainFraction es) (hes' : IsPlainFraction es')
    (h : toNat (ds ++ es) * 10 ^ es'.length = toNat (ds' ++ es') * 10 ^ es.length) :
    toNat ds = toNat ds' ∧ es = es' := by
  rw [← toNat_append_zeros, ← toNat_append_zeros, List.append_assoc, List.append_assoc] at h
  have hlength : (es ++ List.replicate es'.length '0').length =
      (es' ++ List.replicate es.length '0').length := by
    rw [List.length_append, List.length_append, List.length_replicate, List.length_replicate,
      Nat.add_comm]
  obtain ⟨hwhole, hfraction⟩ := append_inj_of_toNat_eq
    (List.forall_mem_append.2 ⟨hes.isDigit, isDigit_zeros _⟩)
    (List.forall_mem_append.2 ⟨hes'.isDigit, isDigit_zeros _⟩) hlength h
  exact ⟨hwhole, hes.eq_of_append_zeros hes' hfraction⟩

/-- A number has one canonical text of each kind. -/
theorem IsCanonical.unique (h : IsCanonical k text) (h' : IsCanonical k text')
    (hx : rational? text = rational? text') : text = text' := by
  cases h with
  | @integer negative ds hds hsign =>
    cases h' with
    | @integer negative' ds' hds' hsign' =>
      rw [rational?_integer hds, rational?_integer hds', Option.some_inj, Int.cast_inj] at hx
      obtain ⟨rfl, hnumber⟩ := signed_inj hx hsign hsign'
      rw [hds.unique hds' hnumber]
  | @decimal negative ds es hds hes hsign =>
    cases h' with
    | @decimal negative' ds' es' hds' hes' hsign' =>
      rw [rational?_decimal hds hes, rational?_decimal hds' hes', Option.some_inj,
        div_eq_div_iff (by positivity) (by positivity)] at hx
      have hshifted : signed negative (toNat (ds ++ es) * 10 ^ es'.length) =
          signed negative' (toNat (ds' ++ es') * 10 ^ es.length) := by
        rw [signed_mul, signed_mul]
        exact_mod_cast hx
      have hpow : ∀ j, 10 ^ j ≠ 0 := fun j => pow_ne_zero j (by decide)
      obtain ⟨rfl, hnumber⟩ := signed_inj hshifted
        (fun hneg => Nat.mul_ne_zero (hsign hneg) (hpow _))
        (fun hneg => Nat.mul_ne_zero (hsign' hneg) (hpow _))
      obtain ⟨hwhole, rfl⟩ := eq_of_shifted hes hes' hnumber
      rw [hds.unique hds' hwhole]

lemma isCanonical_ofInt (i : Int) : IsCanonical .integer (ofInt i) := by
  have htext : ofInt i = minus (decide (i < 0)) ++ ofNat i.natAbs := by
    unfold ofInt minus
    by_cases hi : i < 0 <;> simp [hi]
  rw [htext]
  refine .integer (isPlain_ofNat _) fun hneg => ?_
  have hi := of_decide_eq_true hneg
  rw [toNat_ofNat]
  omega

end Digits

lemma Decimal.isCanonical_render (d : Decimal) : Digits.IsCanonical .decimal d.render := by
  have hvalue := rational?_of_parse? (parse?_render d)
  have htext : d.render = Digits.minus (decide (d.scaled.toInt < 0)) ++
      (Digits.ofNat (d.scaled.toInt.natAbs / 10 ^ places) ++
        '.' :: fractionText (d.scaled.toInt.natAbs % 10 ^ places)) := by
    unfold render Digits.minus
    by_cases hneg : d.scaled.toInt < 0 <;> simp [hneg]
  rw [htext] at hvalue ⊢
  have hds := Digits.isPlain_ofNat (d.scaled.toInt.natAbs / 10 ^ places)
  have hes := Digits.isPlainFraction_fractionText (d.scaled.toInt.natAbs % 10 ^ places)
  refine .decimal hds hes fun hneg hzero => ?_
  -- Digits that are all zero would denote zero, which is not negative.
  rw [Digits.rational?_decimal hds hes, hzero, Option.some_inj, eq_comm, toRat_eq_iff] at hvalue
  have hscaled : d.scaled.toInt = 0 := by
    rw [← Int.cast_inj (α := ℚ), hvalue]
    simp [Digits.signed]
  exact absurd (of_decide_eq_true hneg) (by rw [hscaled]; decide)

/-! ## Literals -/

/-- The datatype that is written for numbers of a kind. -/
def ExactKind.datatype : ExactKind → Iri
  | integer => Xsd.integer
  | decimal => Xsd.decimal

/-- A literal of the datatype of a kind with a canonical text. -/
def Literal.IsCanonical (k : ExactKind) (l : Literal) : Prop :=
  ∃ text, Digits.IsCanonical k text ∧ l = .typed (String.ofList text) k.datatype

namespace Numeric

variable {l l' : Literal} {n n' : Numeric} {k : ExactKind} {x y : ℚ}

/-- What is written for an exact number has its kind, its value and a canonical text. -/
theorem IsExactly.isCanonical_toLiteral (h : n.IsExactly k x) :
    n.toLiteral.IsCanonical k ∧ Digits.rational? n.toLiteral.value.toList = some x := by
  have hread : n.toLiteral.IsExactly k x := ⟨n, h.ofLiteral?_toLiteral, h⟩
  refine ⟨?_, hread.rational?_eq⟩
  cases h with
  | @integer i _ _ => exact ⟨Digits.ofInt i.toInt, Digits.isCanonical_ofInt _, rfl⟩
  | @decimal d _ _ => exact ⟨d.render, d.isCanonical_render, rfl⟩

/-- There is no other canonical literal of this kind and value. -/
theorem IsExactly.eq_toLiteral (h : n.IsExactly k x) (hl : l.IsCanonical k)
    (hx : Digits.rational? l.value.toList = some x) : l = n.toLiteral := by
  obtain ⟨⟨text, htext, hwritten⟩, hvalue⟩ := h.isCanonical_toLiteral
  obtain ⟨text', htext', rfl⟩ := hl
  have hlist : ∀ text, (Literal.typed (String.ofList text) k.datatype).value.toList = text :=
    fun _ => String.toList_ofList
  rw [hwritten, hlist] at hvalue
  rw [hlist] at hx
  rw [hwritten, htext'.unique htext (hx.trans hvalue.symm)]

/-- Numbers of one kind have the same literal if they have the same value. -/
theorem IsExactly.toLiteral_eq_iff (h : n.IsExactly k x) (h' : n'.IsExactly k y) :
    n.toLiteral = n'.toLiteral ↔ x = y := by
  obtain ⟨hcanonical, hx⟩ := h.isCanonical_toLiteral
  obtain ⟨-, hy⟩ := h'.isCanonical_toLiteral
  constructor
  · intro heq
    rw [heq] at hx
    exact Option.some.inj (hx.symm.trans hy)
  · rintro rfl
    exact h'.eq_toLiteral hcanonical hx

/-- **Numbers survive being written and read.**  What is written for an integer or a decimal is read
as the same number, whichever it is.  A literal that is read as such a number, of some value, has
the value that its text denotes; what is written for it instead is the only canonical literal of its
kind and value, and is read as the same number.  So two literals that are read as numbers of one
kind are written in the same way if and only if they have the same value. -/
theorem roundTrips_exactly :
    (∀ i : Signed 64, ofLiteral? (toLiteral (.integer i)) = some (.integer i)) ∧
    (∀ d : Decimal, ofLiteral? (toLiteral (.decimal d)) = some (.decimal d)) ∧
    ∀ (l : Literal) (n : Numeric) (k : ExactKind) (x : ℚ),
      ofLiteral? l = some n → n.IsExactly k x →
        Digits.rational? l.value.toList = some x ∧
        ofLiteral? n.toLiteral = some n ∧
        n.toLiteral.IsCanonical k ∧
        (∀ l' : Literal, l'.IsCanonical k ∧ Digits.rational? l'.value.toList = some x ↔
          l' = n.toLiteral) ∧
        ∀ (l' : Literal) (n' : Numeric) (y : ℚ), ofLiteral? l' = some n' → n'.IsExactly k y →
          (n.toLiteral = n'.toLiteral ↔ x = y) := by
  refine ⟨fun i => IsExactly.ofLiteral?_toLiteral (.integer rfl),
    fun d => IsExactly.ofLiteral?_toLiteral (.decimal rfl), fun l n k x hl hn => ?_⟩
  refine ⟨Literal.IsExactly.rational?_eq ⟨n, hl, hn⟩, hn.ofLiteral?_toLiteral,
    hn.isCanonical_toLiteral.1, fun l' => ⟨fun hl' => hn.eq_toLiteral hl'.1 hl'.2, ?_⟩,
    fun l' n' y _ hn' => hn.toLiteral_eq_iff hn'⟩
  rintro rfl
  exact hn.isCanonical_toLiteral

/-- The least decimal. -/
def leastDecimal : Decimal := ⟨⟨-2 ^ 127, by decide⟩⟩

/-- A text of the least decimal with zeros on both sides. -/
def leastLiteral : Literal := .typed "-0170141183460469231731.6873037158841057280" Xsd.decimal

/-- A text of zero with a sign and without a digit in front of the point. -/
def zeroLiteral : Literal := .typed "-.0" Xsd.decimal

theorem roundTrips_exactly_sample :
    ofLiteral? leastLiteral = some (.decimal leastDecimal) ∧
      (decimal leastDecimal).IsExactly .decimal (-2 ^ 127 / 10 ^ 18) ∧
      ofLiteral? zeroLiteral = some (.decimal (.ofInteger ⟨0, by decide⟩)) ∧
      Digits.rational? leastLiteral.value.toList = some (-2 ^ 127 / 10 ^ 18) ∧
      (decimal leastDecimal).toLiteral =
        .typed "-170141183460469231731.687303715884105728" Xsd.decimal ∧
      (decimal leastDecimal).toLiteral.IsCanonical .decimal ∧
      ofLiteral? (decimal leastDecimal).toLiteral = some (.decimal leastDecimal) ∧
      (decimal leastDecimal).toLiteral ≠ (decimal (.ofInteger ⟨0, by decide⟩)).toLiteral := by
  have hleast : ofLiteral? leastLiteral = some (.decimal leastDecimal) := by
    have hparse : Decimal.parse? leastLiteral.value.toList = some leastDecimal := by
      decide +kernel
    rw [ofLiteral?_of_decimal rfl, hparse, Option.map_some]
  have hzero : ofLiteral? zeroLiteral = some (.decimal (.ofInteger ⟨0, by decide⟩)) := by
    have hparse : Decimal.parse? zeroLiteral.value.toList =
        some (.ofInteger ⟨0, by decide⟩) := by
      decide +kernel
    rw [ofLiteral?_of_decimal rfl, hparse, Option.map_some]
  have hx : (decimal leastDecimal).IsExactly .decimal (-2 ^ 127 / 10 ^ 18) := by
    refine .decimal ?_
    rw [Decimal.toRat, leastDecimal]
    norm_num [Decimal.places]
  have hy : (decimal (.ofInteger ⟨0, by decide⟩)).IsExactly .decimal 0 :=
    .decimal (Decimal.toRat_ofInteger _)
  obtain ⟨hvalue, hread, hcanonical, -, hsame⟩ :=
    roundTrips_exactly.2.2 leastLiteral _ _ _ hleast hx
  refine ⟨hleast, hx, hzero, hvalue, by decide +kernel, hcanonical, hread, ?_⟩
  rw [ne_eq, hsame zeroLiteral _ _ hzero hy]
  norm_num

end Numeric

end SparqlStream
