import Mathlib.Data.Int.Log
import Mathlib.Data.Rat.Floor

/-!
# `Agentype.Lib.Binary64` — sums of doubles

A sum of two doubles is the double nearest to the exact sum, and of two that are equally near the one
with the even significand. The doubles around `q` are the multiples of a power of two, `2 ^ expo q`, so
rounding is rounding to an integer after scaling. Infinities are left out: no argument is as large as
the largest double.
-/

namespace Binary64

/-- The nearest integer; of two, the even one. -/
def roundEven (x : ℚ) : ℤ :=
  if x - ⌊x⌋ < 1 / 2 ∨ x - ⌊x⌋ = 1 / 2 ∧ Even ⌊x⌋ then ⌊x⌋ else ⌊x⌋ + 1

/-- The exponent of the spacing of the doubles around `q`. -/
def expo (q : ℚ) : ℤ := if q = 0 then -1074 else max (Int.log 2 |q| - 52) (-1074)

/-- The nearest double. -/
def nearest (q : ℚ) : ℚ := roundEven (q / 2 ^ expo q) * 2 ^ expo q

/-- The sum of two doubles. -/
def add (a b : ℚ) : ℚ := nearest (a + b)

end Binary64
