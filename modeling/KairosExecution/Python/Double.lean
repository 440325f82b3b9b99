import KairosExecution.Python.Context

/-! Binary floating point. A double is the exact rational that it stands for; the result of
an operation is rounded to 53 binary digits, the even neighbour of two that are as near, and
next to zero to a multiple of the smallest double. The sign of a zero is not kept. -/

namespace Python

/-- `2.0 ** e` -/
def Double.power (e : ℤ) : ℚ := if 0 ≤ e then ((2 ^ e.toNat : ℕ) : ℚ) else mkRat 1 (2 ^ (-e).toNat)

/-- The exponent of the largest power of two that the size of a number reaches. -/
def Double.exponent (x : ℚ) : ℤ :=
  let above : ℤ := x.num.natAbs.log2 - x.den.log2
  if power above ≤ |x| then above else above - 1

/-- The nearest number of 53 binary digits, whatever its size. -/
def nearest (x : ℚ) : ℚ :=
  let unit := Double.power (max (Double.exponent x - 52) (-1074))
  halfEven (x / unit) * unit

/-- The nearest double, `none` where it is an infinity. -/
def double (x : ℚ) : Option ℚ := if |nearest x| < Double.power 1024 then some (nearest x) else none

-- the first integer that is no double, and the first one beyond the largest
example : double (2 ^ 53 + 1) = some (2 ^ 53) ∧ (double (2 ^ 1024 - 2 ^ 970)).isNone := by
  decide +kernel

/-- `math.isclose(a, b, rel_tol=rel, abs_tol=abs)` of finite floats; `rel` is at most one. -/
def isclose (a b rel abs : ℚ) : Bool :=
  a = b || match double (b - a) with
    | none => false
    | some difference =>
      |difference| ≤ |nearest (nearest rel * b)| || |difference| ≤ |nearest (nearest rel * a)|
        || |difference| ≤ nearest abs

-- two doubles apart by exactly the tolerance, which is more than its decimal
example : isclose (nearest 2e-9) (nearest 1e-9) 1e-9 1e-9 ∧ (1e-9 : ℚ) < nearest 1e-9 := by decide +kernel

end Python
