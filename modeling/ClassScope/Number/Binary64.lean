/-!
# Binary floating-point numbers

The 64-bit numbers of binary floating point as exact values, and the one of them that is nearest to
a decimal number. All arithmetic is on natural numbers, so nothing is rounded but the result.
-/

namespace ClassScope

/-- A 64-bit binary floating-point number. -/
inductive Binary64 where
  /-- Not a number. -/
  | nan
  /-- An infinity. -/
  | infinite (negative : Bool)
  /-- The value `mantissa * 2 ^ exponent` with its sign; a zero has a sign too. -/
  | finite (negative : Bool) (mantissa : Nat) (exponent : Int)
  deriving DecidableEq, Repr

namespace Binary64

/-- The least exponent of a number. -/
def minExponent : Int := -1074

/-- The greatest exponent of a number. -/
def maxExponent : Int := 971

/-- The power of two that all mantissas lie below. -/
def mantissaLimit : Nat := 0x20000000000000

/-- The mantissa of the powers of two, the least one above the least exponent. -/
def leadingMantissa : Nat := 0x10000000000000

/-- The number is zero, of either sign. -/
def isZero : Binary64 → Bool
  | .finite _ mantissa _ => mantissa == 0
  | _ => false

/-- The whole number nearest to `num / den`; of two, the even one. -/
def roundHalfEven (num den : Nat) : Nat :=
  let quotient := num / den
  let twice := 2 * (num % den)
  if den < twice ∨ (twice = den ∧ quotient % 2 = 1) then quotient + 1 else quotient

/-- A natural number times a power, where the exponent is not negative, and unchanged elsewhere. -/
def timesPower (n base : Nat) (exponent : Int) : Nat := n * Nat.pow base exponent.toNat

/-- The number nearest to `num / den`, where both are positive. -/
def ofRatio (negative : Bool) (num den : Nat) : Binary64 :=
  -- The ratio lies strictly between the powers of two with exponents `size - 1` and `size + 1`.
  let size : Int := (Nat.log2 num : Int) - Nat.log2 den
  let above (exponent : Int) : Nat := timesPower num 2 (-exponent)
  let below (exponent : Int) : Nat := timesPower den 2 exponent
  let fits := above (size - 53) < below (size - 53) * mantissaLimit
  let exponent := max (if fits then size - 53 else size - 52) minExponent
  let mantissa := roundHalfEven (above exponent) (below exponent)
  -- Rounding up may leave the range of the mantissas.
  let (mantissa, exponent) :=
    if mantissa = mantissaLimit then (leadingMantissa, exponent + 1) else (mantissa, exponent)
  if maxExponent < exponent then .infinite negative else .finite negative mantissa exponent

/-- The number nearest to `digits * 10 ^ exponent`. -/
def ofDecimal (negative : Bool) (digits : Nat) (exponent : Int) : Binary64 :=
  let places : Int := (Nat.toDigits 10 digits).length + exponent
  if digits = 0 ∨ places < -330 then .finite negative 0 minExponent
  else if 310 < places then .infinite negative
  else ofRatio negative (timesPower digits 10 exponent) (timesPower 1 10 (-exponent))

end Binary64

end ClassScope
