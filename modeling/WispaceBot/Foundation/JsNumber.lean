import Mathlib.Algebra.Order.Ring.Rat

/-!
# Numbers of the host language

The number type has a not-a-number value, two infinities and finite values.  The finite values are
taken exactly, as rationals.  The comparisons answer as the language's operators do: every
comparison with `nan` is false.
-/

/-- The numbers of JavaScript, with exact fractions. -/
inductive JsNumber
  | nan
  | negInf
  | posInf
  | finite (q : ℚ)
  deriving DecidableEq

namespace JsNumber

instance (n : ℕ) : OfNat JsNumber n := ⟨finite n⟩

def isFinite : JsNumber → Bool
  | finite _ => true
  | _ => false

/-- The operator `<`. -/
def lt : JsNumber → JsNumber → Bool
  | finite p, finite q => decide (p < q)
  | negInf, finite _ => true
  | negInf, posInf => true
  | finite _, posInf => true
  | _, _ => false

/-- The operator `===`. -/
def eq : JsNumber → JsNumber → Bool
  | nan, _ => false
  | x, y => decide (x = y)

lemma zero_def : (0 : JsNumber) = finite 0 := by
  change finite ((0 : ℕ) : ℚ) = finite 0
  rw [Nat.cast_zero]

lemma lt_zero_eq_not_eq_zero {x : JsNumber} (hfin : x.isFinite = true) (hneg : x.lt 0 = false) :
    lt 0 x = !x.eq 0 := by
  cases x with
  | finite q =>
    rw [zero_def] at hneg ⊢
    have hle : 0 ≤ q := by simpa [lt] using hneg
    by_cases hzero : q = 0
    · simp [lt, eq, hzero]
    · simpa [lt, eq, hzero] using lt_of_le_of_ne hle (Ne.symm hzero)
  | nan | negInf | posInf => exact absurd hfin Bool.false_ne_true

end JsNumber
