import Mathlib.Algebra.Group.Nat.Defs
import Mathlib.Data.Nat.Log

/-!
# Whole numbers as doubles

A double has 53 bits of precision. A whole number with more is rounded to the nearest number
that has no more, and halfway to the one with an even last bit. The numbers here are far below
the largest double.
-/

namespace SecureDatabase.Foundation

/-- A quotient rounded to the nearest whole number, halfway to the even one. -/
def roundHalfEven (dividend divisor : Nat) : Nat :=
  let quotient := dividend / divisor
  let twice := 2 * (dividend % divisor)
  if twice < divisor ∨ twice = divisor ∧ quotient % 2 = 0 then quotient else quotient + 1

/-- The double that is nearest to a whole number. -/
def nearestDouble (value : Int) : Int :=
  let spacing := 2 ^ (Nat.log2 value.natAbs + 1 - 53)
  value.sign * (roundHalfEven value.natAbs spacing * spacing : Nat)

/-- A whole number needs no rounding. -/
theorem roundHalfEven_one (value : Nat) : roundHalfEven value 1 = value := by
  simp [roundHalfEven, Nat.mod_one]

/-- A whole number of 53 bits is a double. -/
theorem nearestDouble_of_lt {value : Int} (small : value.natAbs < 2 ^ 53) :
    nearestDouble value = value := by
  have precise : Nat.log2 value.natAbs + 1 - 53 = 0 := by
    by_cases zero : value.natAbs = 0
    · rw [zero]
      decide
    · have := (Nat.log2_lt zero).mpr small
      omega
  simp only [nearestDouble, precise, Nat.pow_zero, roundHalfEven_one, Nat.mul_one]
  exact Int.sign_mul_natAbs value

end SecureDatabase.Foundation
