/-
  Twolk.Lib.JsNumber
  ──────────────────
  **NON-NEGATIVE INTEGERS AMONG JAVASCRIPT NUMBERS.**

  A JavaScript number is a double: a sum is rounded to the nearest one, ties
  to the even significand.  Remainders of integers are exact.

  Main result: `add_eq` — a sum up to 2^53 is not rounded.
-/
import Mathlib.Algebra.Ring.Nat
import Mathlib.Data.Nat.Log

namespace Twolk.Lib.JsNumber

/-- `Number.MAX_SAFE_INTEGER`. -/
def MAX_SAFE_INTEGER : Nat := 2 ^ 53 - 1

/-- The distance of the doubles around `n`: a significand has 53 bits. -/
def ulp (n : Nat) : Nat := 2 ^ (Nat.log2 n - 52)

/-- The double nearest to `n`. -/
def round (n : Nat) : Nat :=
  let significand := n / ulp n
  let rest := n % ulp n
  if 2 * rest < ulp n ∨ 2 * rest = ulp n ∧ significand % 2 = 0 then
    significand * ulp n
  else (significand + 1) * ulp n

/-- `a + b`. -/
def add (a b : Nat) : Nat := round (a + b)

-- 2^53 + 1 is no double
example : add (2 ^ 53) 1 = 2 ^ 53 := by decide

/-- Below 2^53 every integer is a number. -/
theorem ulp_eq_one {n : Nat} (h : n < 2 ^ 53) : ulp n = 1 := by
  unfold ulp
  have hlog : Nat.log2 n ≤ 52 := by
    by_cases hn : n = 0
    · rw [hn]
      decide
    · have hlt := (Nat.log2_lt hn).mpr h
      omega
  rw [Nat.sub_eq_zero_of_le hlog, Nat.pow_zero]

/-- Below 2^53 every integer is a double. -/
theorem round_eq_of_lt {n : Nat} (h : n < 2 ^ 53) : round n = n := by
  unfold round
  rw [ulp_eq_one h]
  simp [Nat.mod_one]

/-- Rounding leaves an integer up to 2^53 as it is. -/
theorem round_eq {n : Nat} (h : n ≤ 2 ^ 53) : round n = n := by
  rcases Nat.lt_or_eq_of_le h with h | h
  · exact round_eq_of_lt h
  · rw [h]
    decide

/-- A sum up to 2^53 is exact. -/
theorem add_eq {a b : Nat} (h : a + b ≤ 2 ^ 53) : add a b = a + b :=
  round_eq h

end Twolk.Lib.JsNumber
