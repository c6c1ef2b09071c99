/-!
# Bounded integers

`Signed n` holds the integers that a two's complement word of `n` bits can hold.  Its arithmetic
is the arithmetic of the integers, and it has a result only where that result is in range again,
so nothing ever wraps.
-/

namespace SparqlStream

/-- Whether an integer fits a word of `bits` bits with a sign. -/
def Signed.Fits (bits : Nat) (i : Int) : Prop :=
  -Int.pow 2 (bits - 1) ≤ i ∧ i < Int.pow 2 (bits - 1)

instance (bits : Nat) (i : Int) : Decidable (Signed.Fits bits i) := by
  unfold Signed.Fits; infer_instance

/-- An integer that fits a word of `bits` bits with a sign. -/
structure Signed (bits : Nat) where
  toInt : Int
  fits : Signed.Fits bits toInt
  deriving DecidableEq

namespace Signed

variable {bits : Nat}

instance : Repr (Signed bits) := ⟨fun a n => reprPrec a.toInt n⟩

/-- The word that holds an integer, if one does. -/
def ofInt? (i : Int) : Option (Signed bits) :=
  if h : Fits bits i then some ⟨i, h⟩ else none

theorem ofInt?_eq_some {i : Int} {a : Signed bits} : ofInt? i = some a ↔ a.toInt = i := by
  unfold ofInt?
  constructor
  · intro h
    split at h
    · cases h; rfl
    · cases h
  · rintro rfl
    simp [a.fits]

@[simp] theorem ofInt?_toInt (a : Signed bits) : ofInt? a.toInt = some a :=
  ofInt?_eq_some.2 rfl

def add? (a b : Signed bits) : Option (Signed bits) := ofInt? (a.toInt + b.toInt)

def sub? (a b : Signed bits) : Option (Signed bits) := ofInt? (a.toInt - b.toInt)

def mul? (a b : Signed bits) : Option (Signed bits) := ofInt? (a.toInt * b.toInt)

def neg? (a : Signed bits) : Option (Signed bits) := ofInt? (-a.toInt)

/-- The quotient without its fraction.  There is none by zero. -/
def div? (a b : Signed bits) : Option (Signed bits) :=
  if b.toInt = 0 then none else ofInt? (a.toInt.tdiv b.toInt)

/-- The order of the integers. -/
def compare (a b : Signed bits) : Ordering := Ord.compare a.toInt b.toInt

end Signed

end SparqlStream
