import ClassScope.Number.Binary64
import ClassScope.Text.Basic

/-!
# Shortest decimals

The fewest decimal digits that read back as a given binary number, and of those the decimal nearest
to it. For 1, 2, 3, ... digits the two neighbours of the value on that decimal grid are compared
with the interval of the reals that round to it; the first grid with a hit gives the digits.
-/

namespace ClassScope

/-- A positive decimal number `digits * 10 ^ exponent`. -/
structure Decimal where
  /-- The digits, read as one number. -/
  digits : Nat
  /-- The power of ten of the last digit. -/
  exponent : Int
  deriving DecidableEq, Repr

namespace Binary64

/-- A positive real `mantissa * 2 ^ exponent` with the interval that rounds to it, all four in
quarters of the last binary place. -/
structure Interval where
  /-- The lower end. -/
  low : Nat
  /-- The value itself. -/
  value : Nat
  /-- The upper end. -/
  high : Nat
  /-- The power of two of a quarter. -/
  exponent : Int
  /-- The ends round to the value too. -/
  closed : Bool

/-- The interval of the reals that round to a number. Below a power of two the numbers lie closer.
-/
def interval (mantissa : Nat) (exponent : Int) : Interval :=
  let narrow := mantissa = leadingMantissa ∧ minExponent < exponent
  { low := 4 * mantissa - (if narrow then 1 else 2)
    value := 4 * mantissa
    high := 4 * mantissa + 2
    exponent := exponent - 2
    closed := mantissa % 2 == 0 }

/-- The decimal with last place `10 ^ place` that lies in the interval; of two, the nearer to the
value, and of two equally near, the even one. -/
def Interval.onGrid? (range : Interval) (place : Int) : Option Decimal :=
  -- Quarters of the last binary place and units of the decimal place in a common measure.
  let binary := timesPower (timesPower 1 2 range.exponent) 10 (-place)
  let decimal := timesPower (timesPower 1 10 place) 2 (-range.exponent)
  let inside (digits : Nat) : Bool :=
    let point := digits * decimal
    if range.closed then range.low * binary ≤ point && point ≤ range.high * binary
    else range.low * binary < point && point < range.high * binary
  let value := range.value * binary
  let below := value / decimal
  let above := below + 1
  let fromBelow := value - below * decimal
  let fromAbove := above * decimal - value
  let belowFirst := fromBelow < fromAbove || (fromBelow == fromAbove && below % 2 == 0)
  let candidates := if belowFirst then [below, above] else [above, below]
  (candidates.find? fun digits => 0 < digits && inside digits).map (⟨·, place⟩)

/-- The least `e` of the three after `guess` with the value below `10 ^ e`. -/
def decimalSize (mantissa : Nat) (exponent : Int) : Int :=
  let below (e : Int) : Bool :=
    timesPower (timesPower mantissa 2 exponent) 10 (-e) <
      timesPower (timesPower 1 10 e) 2 (-exponent)
  let guess := Int.fdiv (((Nat.log2 mantissa : Int) + exponent) * 30103) 100000
  if below guess then guess else if below (guess + 1) then guess + 1 else guess + 2

/-- The shortest decimal of a positive number, which 17 digits always give. -/
def shortest (mantissa : Nat) (exponent : Int) : Decimal :=
  let size := decimalSize mantissa exponent
  let range := interval mantissa exponent
  let found := (List.range 17).findSome? fun n => range.onGrid? (size - (n + 1 : Nat))
  found.getD ⟨mantissa, exponent⟩

/-- How numbers are written: positional while the power of ten of the first digit is at least
`leastPower` and below `powerLimit`, and otherwise with an exponent. -/
structure DecimalStyle where
  /-- The least power of ten of the first digit that is written positionally. -/
  leastPower : Int
  /-- The least power of ten of the first digit from which on an exponent is written. -/
  powerLimit : Int
  /-- The fewest digits of an exponent. -/
  exponentWidth : Nat

/-- Digits without the zeros at their end. -/
def significant (digits : Text) : Text := (digits.reverse.dropWhile (· == '0')).reverse

/-- A decimal in a style, with a fraction or an exponent in every case. -/
def DecimalStyle.write (style : DecimalStyle) (d : Decimal) : Text :=
  let all := Nat.toDigits 10 d.digits
  let digits := significant all
  let point : Int := all.length + d.exponent
  let power := point - 1
  if style.leastPower ≤ power ∧ power < style.powerLimit then
    if point ≤ 0 then Text.of "0." ++ List.replicate (-point).toNat '0' ++ digits
    else
      let whole := digits.take point.toNat
      let fraction := digits.drop point.toNat
      whole ++ List.replicate (point.toNat - whole.length) '0' ++ ['.'] ++
        (if fraction.isEmpty then ['0'] else fraction)
  else
    let exponent := Nat.toDigits 10 power.natAbs
    digits.take 1 ++ (if digits.length ≤ 1 then [] else '.' :: digits.drop 1) ++ ['e'] ++
      [if power < 0 then '-' else '+'] ++
      List.replicate (style.exponentWidth - exponent.length) '0' ++ exponent

/-- The text of a number in a style. -/
def write (style : DecimalStyle) : Binary64 → Text
  | .nan => Text.of "nan"
  | .infinite negative => (if negative then ['-'] else []) ++ Text.of "inf"
  | .finite negative mantissa exponent =>
    (if negative then ['-'] else []) ++
      if mantissa = 0 then Text.of "0.0" else style.write (shortest mantissa exponent)

end Binary64

end ClassScope
