/-!
# The numbers that means and estimates are computed in

Every rule of this library that averages, filters or regresses is written once, over a type `R`
with the operations of `Scalar`. A service runs on `Float`, whose operations are those of IEEE 754
binary64. A theory of the same rules in exact arithmetic instantiates `R` by a field.

* `Scalar`: the operations, with comparisons as Booleans because a NaN compares with nothing;
* `Scalar.sum`, `Scalar.square`: the two derived forms that the rules share;
* `saturate`: the nearest 64-bit number of milliseconds.
-/

namespace Headway

/-- Arithmetic, comparison and conversion, as far as the rules of this library need them. -/
class Scalar (R : Type) extends Add R, Sub R, Mul R, Div R where
  /-- The number closest to an integer. -/
  ofInt : Int → R
  /-- At most; false when either side is no number. -/
  le : R → R → Bool
  /-- Less than; false when either side is no number. -/
  lt : R → R → Bool
  /-- Equal as numbers; false when either side is no number. -/
  eq : R → R → Bool
  /-- Neither infinite nor undefined. -/
  isFinite : R → Bool
  /-- The integer next to a number on the side of zero, kept within 64 bits; 0 for no number. -/
  truncate : R → Int
  /-- The nearest integer, a half going away from zero, kept within 64 bits; 0 for no number. -/
  round : R → Int
  /-- The logarithm to base ten. -/
  log10 : R → R
  /-- The power with the given base and exponent. -/
  pow : R → R → R

-- where a type of numbers has operations of its own, those are meant
attribute [instance (low)] Scalar.toAdd Scalar.toSub Scalar.toMul Scalar.toDiv

namespace Scalar

variable {R : Type} [Scalar R]

/-- Zero. -/
def zero : R := ofInt 0

/-- One. -/
def one : R := ofInt 1

/-- Adds up from the left, starting at zero. -/
def sum (xs : List R) : R := xs.foldl (· + ·) zero

/-- A number times itself. -/
def square (x : R) : R := x * x

/-- The number of members of a list. -/
def count {α : Type} (xs : List α) : R := ofInt xs.length

/-- A sum divided by the number of its terms. -/
def mean (xs : List R) : R := sum xs / count xs

end Scalar

/-- Binary64 arithmetic. -/
instance : Scalar Float where
  ofInt := Float.ofInt
  le a b := a ≤ b
  lt a b := a < b
  eq a b := a == b
  isFinite := Float.isFinite
  truncate x := x.toInt64.toInt
  round x := x.round.toInt64.toInt
  log10 := Float.log10
  pow := Float.pow

/-! ## Whole milliseconds -/

/-- The least number of milliseconds that 64 bits hold. -/
def leastMillis : Int := -9223372036854775808

/-- The greatest number of milliseconds that 64 bits hold. -/
def greatestMillis : Int := 9223372036854775807

/-- The 64-bit number of milliseconds that is closest to `n`. -/
def saturate (n : Int) : Int := max leastMillis (min greatestMillis n)

theorem saturate_of_mem {n : Int} (lo : leastMillis ≤ n) (hi : n ≤ greatestMillis) :
    saturate n = n := by
  simp only [saturate, leastMillis, greatestMillis] at *
  omega

theorem saturate_mono {n k : Int} (h : n ≤ k) : saturate n ≤ saturate k := by
  simp only [saturate, leastMillis, greatestMillis]
  omega

theorem saturate_le_greatestMillis (n : Int) : saturate n ≤ greatestMillis := by
  simp only [saturate, leastMillis, greatestMillis]
  omega

end Headway
