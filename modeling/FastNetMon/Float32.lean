/-
FastNetMon/Float32.lean

IEEE 754 single precision numbers, as far as integers are converted to and
from them.

A number is its 32-bit pattern: a sign bit, eight bits of exponent and 23 bits
of fraction.  An integer is converted with the default rounding, to the nearest
number with 24 significant bits and to the even one half way
(`roundToFloat`, `float32OfNat`); back, the fraction is cut off, and a number
outside the range of `int` becomes the smallest `int`, as the x86 instruction
does (`float32ToInt`).
-/
import Mathlib.Data.Nat.Size
import Mathlib.Tactic

namespace FastNetMon

/-- The value of `float(n)` for an unsigned integer `n`. -/
def roundToFloat (n : ℕ) : ℕ :=
  if n < 2 ^ 24 then n
  else
    let shift := n.log2 - 23
    let quotient := n / 2 ^ shift
    let rest := n % 2 ^ shift
    let up := 2 * rest > 2 ^ shift ∨ 2 * rest = 2 ^ shift ∧ quotient % 2 = 1
    (if up then quotient + 1 else quotient) * 2 ^ shift

/-- The bit pattern of `float(n)`. -/
def float32OfNat (n : ℕ) : UInt32 :=
  if n = 0 then 0
  else
    let value := roundToFloat n
    let exponent := value.log2
    let fraction :=
      if exponent ≤ 23 then value * 2 ^ (23 - exponent) else value / 2 ^ (exponent - 23)
    .ofNat ((exponent + 127) * 2 ^ 23 + (fraction - 2 ^ 23))

/-- `x < 0`: the sign bit is set, and `x` is neither zero nor a NaN. -/
def float32IsNegative (bits : UInt32) : Bool :=
  bits.toNat ≥ 2 ^ 31 && bits.toNat % 2 ^ 31 != 0 && bits.toNat % 2 ^ 31 ≤ 255 * 2 ^ 23

/-- `int(x)`. -/
def float32ToInt (bits : UInt32) : ℤ :=
  let exponent := bits.toNat / 2 ^ 23 % 2 ^ 8
  let fraction := bits.toNat % 2 ^ 23
  let significand := if exponent = 0 then fraction else 2 ^ 23 + fraction
  let magnitude : ℕ :=
    if exponent ≤ 150 then significand / 2 ^ (150 - exponent)
    else significand * 2 ^ (exponent - 150)
  let value : ℤ := if bits.toNat ≥ 2 ^ 31 then -magnitude else magnitude
  if exponent = 255 then -2 ^ 31
  else if -2 ^ 31 ≤ value ∧ value < 2 ^ 31 then value
  else -2 ^ 31

/-- Small integers are represented exactly. -/
theorem roundToFloat_of_lt {n : ℕ} (h : n < 2 ^ 24) : roundToFloat n = n := by
  rw [roundToFloat, if_pos h]

example : float32OfNat 1024 = 0x44800000 := by decide

end FastNetMon
