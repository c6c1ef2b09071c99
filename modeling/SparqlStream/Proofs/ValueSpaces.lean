import Mathlib.Tactic
import SparqlStream.Proofs.ExactExpressions

/-!
# Value spaces of the integer datatypes

The datatypes derived from `xsd:integer` differ in the integers that they hold:
`IntegerType.all` lists them with their bounds.  A literal is well-typed if its lexical form denotes
an integer within the bounds of its own datatype.  An ill-typed literal denotes nothing, so an
operator that computes with numbers should refuse it.

Numbers are read without a look at these bounds.  What is refused is what no word of 64 bits holds,
whatever the datatype is (`ofLiteral?_eq_some_iff`).  For two datatypes this refuses all ill-typed
literals: `xsd:long`, which has the bounds of the word, and `xsd:integer`, which has none.  For each
of the others some ill-typed literals are accepted: `Literal.refuses_exactly`.

What is accepted, and what is refused, is stated through the operators themselves
(`Literal.IsRefused`).
-/

namespace SparqlStream

/-! ## What a text denotes -/

/-- The integer that a text denotes: a sign, which may be missing, and at least one digit. -/
inductive Digits.Denotes : List Char → Int → Prop
  | plain {ds : List Char} (hne : ds ≠ []) (hds : ∀ c ∈ ds, c.isDigit = true) :
    Denotes ds (toNat ds)
  | plus {ds : List Char} (hne : ds ≠ []) (hds : ∀ c ∈ ds, c.isDigit = true) :
    Denotes ('+' :: ds) (toNat ds)
  | minus {ds : List Char} (hne : ds ≠ []) (hds : ∀ c ∈ ds, c.isDigit = true) :
    Denotes ('-' :: ds) (-(toNat ds : Int))

namespace Digits

variable {text ds : List Char} {i j : Int} {negative : Bool}

lemma toInt?_of_sign (hsign : sign text = (negative, ds)) (hne : ds ≠ [])
    (hds : ∀ c ∈ ds, c.isDigit = true) : toInt? text = some (signed negative (toNat ds)) := by
  unfold toInt?
  rw [hsign]
  exact if_pos ⟨hne, List.all_eq_true.2 hds⟩

lemma Denotes.toInt? (h : Denotes text i) : toInt? text = some i := by
  cases h with
  | plain hne hds =>
    have hsign : sign (text ++ []) = (false, text ++ []) := sign_of_isDigit hds hne
    rw [List.append_nil] at hsign
    exact toInt?_of_sign hsign hne hds
  | plus hne hds => exact toInt?_of_sign rfl hne hds
  | minus hne hds => exact toInt?_of_sign rfl hne hds

/-- The integer that is read is the one that the text denotes. -/
theorem toInt?_eq_some_iff : toInt? text = some i ↔ Denotes text i := by
  refine ⟨fun h => ?_, Denotes.toInt?⟩
  obtain ⟨negative, ds, hsign⟩ : ∃ negative ds, sign text = (negative, ds) := ⟨_, _, rfl⟩
  unfold toInt? at h
  rw [hsign] at h
  dsimp only at h
  split at h
  · next hdigits =>
    obtain ⟨hne, hall⟩ := hdigits
    have hds := List.all_eq_true.1 hall
    obtain rfl := Option.some.inj h
    -- The sign tells which of the three forms the text has.
    unfold sign at hsign
    split at hsign <;> cases hsign
    · exact .plus hne hds
    · exact .minus hne hds
    · exact .plain hne hds
  · cases h

lemma Denotes.unique (h : Denotes text i) (h' : Denotes text j) : i = j :=
  Option.some.inj (h.toInt?.symm.trans h'.toInt?)

lemma denotes_ofInt (i : Int) : Denotes (ofInt i) i := toInt?_eq_some_iff.1 (toInt?_ofInt i)

end Digits

/-! ## Datatypes and their values -/

/-- An integer datatype with the least and the greatest of its values, as far as it has them. -/
structure IntegerType where
  datatype : Iri
  least? : Option Int
  greatest? : Option Int
  deriving DecidableEq

namespace IntegerType

/-- The datatype of the words of some bits with a sign. -/
def signed (name : String) (bits : Nat) : IntegerType :=
  ⟨.xsd name, some (-2 ^ (bits - 1)), some (2 ^ (bits - 1) - 1)⟩

/-- The datatype of the words of some bits without a sign. -/
def unsigned (name : String) (bits : Nat) : IntegerType :=
  ⟨.xsd name, some 0, some (2 ^ bits - 1)⟩

/-- `xsd:integer` and the datatypes derived from it. -/
def all : List IntegerType :=
  [⟨Xsd.integer, none, none⟩, signed "byte" 8, signed "short" 16, signed "int" 32,
    signed "long" 64, unsigned "unsignedByte" 8, unsigned "unsignedShort" 16,
    unsigned "unsignedInt" 32, unsigned "unsignedLong" 64,
    ⟨.xsd "positiveInteger", some 1, none⟩, ⟨.xsd "negativeInteger", none, some (-1)⟩,
    ⟨.xsd "nonPositiveInteger", none, some 0⟩, ⟨.xsd "nonNegativeInteger", some 0, none⟩]

/-- Whether an integer is one of the values. -/
def Holds (t : IntegerType) (i : Int) : Prop :=
  (∀ m ∈ t.least?, m ≤ i) ∧ ∀ m ∈ t.greatest?, i ≤ m

instance (t : IntegerType) (i : Int) : Decidable (t.Holds i) := by
  unfold Holds; infer_instance

variable {t : IntegerType}

/-- These are the datatypes whose literals are read as integers. -/
lemma map_datatype_all : all.map datatype = Xsd.integerDatatypes := rfl

lemma isInteger_of_mem (ht : t ∈ all) : Xsd.isInteger t.datatype = true := by
  rw [Xsd.isInteger, List.contains_iff_mem, ← map_datatype_all]
  exact List.mem_map_of_mem ht

/-- The values have no gaps. -/
lemma Holds.between {i j k : Int} (hi : t.Holds i) (hk : t.Holds k) (hij : i ≤ j) (hjk : j ≤ k) :
    t.Holds j :=
  ⟨fun m hm => (hi.1 m hm).trans hij, fun m hm => hjk.trans (hk.2 m hm)⟩

lemma fits_iff {i : Int} : Signed.Fits 64 i ↔ -2 ^ 63 ≤ i ∧ i ≤ 2 ^ 63 - 1 :=
  and_congr_right' Int.le_sub_one_iff.symm

/-- Two of the datatypes hold all words. -/
lemma holds_of_fits_iff (ht : t ∈ all) :
    (∀ i, Signed.Fits 64 i → t.Holds i) ↔ t.datatype = Xsd.integer ∨ t.datatype = .xsd "long" := by
  have hends : ∀ t ∈ all, t.Holds (-2 ^ 63) ∧ t.Holds (2 ^ 63 - 1) ↔
      t.datatype = Xsd.integer ∨ t.datatype = .xsd "long" := by
    decide +kernel
  rw [← hends t ht]
  constructor
  · intro h
    exact ⟨h _ (fits_iff.2 (by omega)), h _ (fits_iff.2 (by omega))⟩
  · intro h i hi
    obtain ⟨hlow, hhigh⟩ := fits_iff.1 hi
    exact h.1.between h.2 hlow hhigh

end IntegerType

namespace Literal

open Expression

variable {l : Literal} {t : IntegerType}

/-- The lexical form of a literal denotes a value of its datatype. -/
def IsWellTyped (l : Literal) (t : IntegerType) : Prop :=
  l.datatype = t.datatype ∧ ∃ i, Digits.Denotes l.value.toList i ∧ t.Holds i

/-! ## Operators -/

/-- The test for numbers rejects a literal, and it is a type error to compute with it. -/
structure IsRefused (l : Literal) : Prop where
  isNumeric : ∀ b, (call (.builtin .isNumeric) [.literal l]).evaluate b = .ok (.ofBool false)
  left : ∀ op e b,
    (arithmetic op (.literal l) e).evaluate b = .error (.type (.notNumber (.literal l)))
  right : ∀ op e b u n, e.evaluate b = .ok (.literal u) → Numeric.ofLiteral? u = some n →
    (arithmetic op e (.literal l)).evaluate b = .error (.type (.notNumber (.literal l)))
  plus : ∀ b, (Expression.plus (.literal l)).evaluate b =
    .error (.type (.notNumber (.literal l)))
  minus : ∀ b, (Expression.minus (.literal l)).evaluate b =
    .error (.type (.notNumber (.literal l)))

/-- The test for numbers looks at the number that a literal denotes. -/
lemma evaluate_isNumeric (l : Literal) (b : Binding) :
    (call (.builtin .isNumeric) [.literal l]).evaluate b =
      .ok (.ofBool (Numeric.ofLiteral? l).isSome) := by
  rw [evaluate, evaluateAll, evaluateAll, evaluate]
  rfl

/-- An operator stops at an operand that is no number. -/
lemma bind_numeric_of_eq_none (hl : Numeric.ofLiteral? l = none) (b : Binding)
    (f : Term → Numeric → Except EvaluationError Term) :
    ((Expression.literal l).evaluate b >>= fun t => t.numeric >>= f t) =
      .error (.type (.notNumber (.literal l))) := by
  have hnumeric : (Term.literal l).numeric? = none := hl
  rw [evaluate]
  show (Term.literal l).numeric >>= f (.literal l) = _
  unfold Term.numeric
  rw [hnumeric]
  rfl

/-- What is refused is what is read as no number. -/
theorem isRefused_iff : l.IsRefused ↔ Numeric.ofLiteral? l = none := by
  constructor
  · intro h
    have htest := h.isNumeric .empty
    rw [evaluate_isNumeric] at htest
    cases hl : Numeric.ofLiteral? l with
    | none => rfl
    | some n =>
      rw [hl] at htest
      have hne : Term.ofBool true ≠ Term.ofBool false := by decide +kernel
      exact absurd (Except.ok.inj htest) hne
  · intro h
    refine ⟨fun b => ?_, fun op e b => ?_, fun op e b u n hu hn => ?_, fun b => ?_, fun b => ?_⟩
    · rw [evaluate_isNumeric, h]
      rfl
    · rw [evaluate, bind_numeric_of_eq_none h]
    · rw [evaluate, bind_numeric hu hn, bind_numeric_of_eq_none h]
    · rw [evaluate, bind_numeric_of_eq_none h]
    · rw [evaluate, bind_numeric_of_eq_none h]

/-! ## Literals that are refused -/

/-- A literal of an integer datatype is read as the integer that it denotes, if a word holds it. -/
theorem ofLiteral?_eq_some_iff (hl : Xsd.isInteger l.datatype = true) {n : Numeric} :
    Numeric.ofLiteral? l = some n ↔
      ∃ i : Signed 64, Digits.Denotes l.value.toList i.toInt ∧ n = .integer i := by
  rw [Numeric.ofLiteral?_of_isInteger hl, Option.bind_eq_some_iff]
  constructor
  · rintro ⟨i, hi, hn⟩
    obtain ⟨a, ha, rfl⟩ := Option.map_eq_some_iff.1 hn
    obtain rfl := Signed.ofInt?_eq_some.1 ha
    exact ⟨a, Digits.toInt?_eq_some_iff.1 hi, rfl⟩
  · rintro ⟨a, ha, rfl⟩
    exact ⟨a.toInt, ha.toInt?, by rw [Signed.ofInt?_toInt, Option.map_some]⟩

/-- A literal of an integer datatype is refused if no word holds what it denotes. -/
lemma isRefused_iff_of_isInteger (hl : Xsd.isInteger l.datatype = true) :
    l.IsRefused ↔ ∀ i, Digits.Denotes l.value.toList i → ¬ Signed.Fits 64 i := by
  rw [isRefused_iff, Option.eq_none_iff_forall_ne_some]
  constructor
  · intro h i hi hfits
    exact h (.integer ⟨i, hfits⟩) ((ofLiteral?_eq_some_iff hl).2 ⟨⟨i, hfits⟩, hi, rfl⟩)
  · intro h n hn
    obtain ⟨i, hi, -⟩ := (ofLiteral?_eq_some_iff hl).1 hn
    exact h i.toInt hi i.fits

/-- All ill-typed literals of a datatype are refused exactly if the datatype holds all words. -/
lemma forall_isRefused_iff (ht : t ∈ IntegerType.all) :
    (∀ l : Literal, l.datatype = t.datatype → ¬ l.IsWellTyped t → l.IsRefused) ↔
      ∀ i, Signed.Fits 64 i → t.Holds i := by
  have hinteger := IntegerType.isInteger_of_mem ht
  constructor
  · intro h i hi
    by_contra hnot
    let l : Literal := .typed (String.ofList (Digits.ofInt i)) t.datatype
    have htext : Digits.Denotes l.value.toList i := by
      show Digits.Denotes (String.ofList (Digits.ofInt i)).toList i
      rw [String.toList_ofList]
      exact Digits.denotes_ofInt i
    have hill : ¬ l.IsWellTyped t := by
      rintro ⟨-, j, hj, hholds⟩
      rw [hj.unique htext] at hholds
      exact hnot hholds
    have hrefused := h l rfl hill
    exact (isRefused_iff_of_isInteger (l := l) hinteger).1 hrefused i htext hi
  · intro h l hl hill
    rw [← hl] at hinteger
    rw [isRefused_iff_of_isInteger hinteger]
    intro i hi hfits
    exact hill ⟨hl, i, hi, h i hfits⟩

/-- **Ill-typed literals.**  A literal of an integer datatype is read as a number exactly if its
lexical form denotes an integer that a word of 64 bits holds, and then as this integer; if it is not
read as a number, operators refuse it.  So an ill-typed literal is refused unless it denotes such an
integer.  All ill-typed literals of the datatype are refused exactly if the datatype is
`xsd:integer` or `xsd:long`. -/
theorem refuses_exactly (ht : t ∈ IntegerType.all) :
    (∀ l : Literal, l.datatype = t.datatype →
      (∀ n, Numeric.ofLiteral? l = some n ↔
        ∃ i : Signed 64, Digits.Denotes l.value.toList i.toInt ∧ n = .integer i) ∧
      (l.IsRefused ↔ Numeric.ofLiteral? l = none) ∧
      (¬ l.IsWellTyped t ∧ ¬ l.IsRefused ↔
        ∃ i, Digits.Denotes l.value.toList i ∧ Signed.Fits 64 i ∧ ¬ t.Holds i)) ∧
    ((∀ l : Literal, l.datatype = t.datatype → ¬ l.IsWellTyped t → l.IsRefused) ↔
      t.datatype = Xsd.integer ∨ t.datatype = .xsd "long") := by
  refine ⟨fun l hl => ?_, ?_⟩
  · have hinteger : Xsd.isInteger l.datatype = true := by
      rw [hl]
      exact IntegerType.isInteger_of_mem ht
    refine ⟨fun n => ofLiteral?_eq_some_iff hinteger, isRefused_iff, ?_⟩
    rw [isRefused_iff_of_isInteger hinteger]
    push Not
    constructor
    · rintro ⟨hill, i, hi, hfits⟩
      exact ⟨i, hi, hfits, fun hholds => hill ⟨hl, i, hi, hholds⟩⟩
    · rintro ⟨i, hi, hfits, hnot⟩
      refine ⟨?_, i, hi, hfits⟩
      rintro ⟨-, j, hj, hholds⟩
      rw [hj.unique hi] at hholds
      exact hnot hholds
  · rw [forall_isRefused_iff ht, IntegerType.holds_of_fits_iff ht]

/-- The least integer above all words. -/
def beyondWords : Literal := .typed "9223372036854775808" (.xsd "long")

theorem refuses_exactly_sample :
    IntegerType.signed "long" 64 ∈ IntegerType.all ∧
      ¬ beyondWords.IsWellTyped (.signed "long" 64) ∧
      Numeric.ofLiteral? beyondWords = none ∧ beyondWords.IsRefused := by
  have hlong : IntegerType.signed "long" 64 ∈ IntegerType.all := by decide +kernel
  have hdenotes : Digits.Denotes beyondWords.value.toList (2 ^ 63) :=
    Digits.toInt?_eq_some_iff.1 (by decide +kernel)
  have hill : ¬ beyondWords.IsWellTyped (.signed "long" 64) := by
    rintro ⟨-, i, hi, hholds⟩
    rw [hi.unique hdenotes] at hholds
    exact absurd hholds (by decide)
  obtain ⟨hliterals, hall⟩ := refuses_exactly hlong
  have hrefused := hall.2 (.inr rfl) beyondWords rfl hill
  exact ⟨hlong, hill, (hliterals beyondWords rfl).2.1.1 hrefused, hrefused⟩

/-- 200 is no byte, but the literal passes for a number and can be computed with. -/
theorem accepts_illTyped :
    IntegerType.signed "byte" 8 ∈ IntegerType.all ∧
      ¬ (Literal.typed "200" (.xsd "byte")).IsWellTyped (.signed "byte" 8) ∧
      (Numeric.ofLiteral? (.typed "200" (.xsd "byte"))).isSome = true ∧
      (call (.builtin .isNumeric) [.literal (.typed "200" (.xsd "byte"))]).evaluate .empty =
        .ok (.ofBool true) ∧
      (arithmetic .add (.literal (.typed "200" (.xsd "byte")))
        (.literal (.typed "1" (.xsd "byte")))).evaluate .empty =
        .ok (.literal (.typed "201" Xsd.integer)) := by
  have hdenotes : Digits.Denotes "200".toList 200 :=
    Digits.toInt?_eq_some_iff.1 (by decide +kernel)
  refine ⟨by decide +kernel, ?_, by decide +kernel, by decide +kernel, by decide +kernel⟩
  rintro ⟨-, i, hi, hholds⟩
  rw [hi.unique hdenotes] at hholds
  exact absurd hholds (by decide)

end Literal

end SparqlStream
