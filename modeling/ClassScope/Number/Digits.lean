import ClassScope.Text.Basic

/-!
# Whole numbers from digits

The number that decimal digits stand for. A whole number may be written in so many digits and no
more, zeros in front included.
-/

namespace ClassScope

/-- The number that digits stand for. -/
def digitsValue (digits : Text) : Nat :=
  digits.foldl (fun n c => n * 10 + (c.toNat - 0x30)) 0

/-- The most digits that a whole number may be written in. -/
def digitLimit : Nat := 4300

/-- A whole number is written in too many digits. -/
structure TooManyDigits where
  /-- How many there are. -/
  count : Nat
  deriving DecidableEq, Repr

/-- The wording of the error. -/
def TooManyDigits.message (e : TooManyDigits) : String :=
  s!"Exceeds the limit ({digitLimit} digits) for integer string conversion: value has {e.count} " ++
    "digits; use sys.set_int_max_str_digits() to increase the limit"

/-- The whole number that digits stand for, if there are not too many of them. -/
def readWholeNumber (digits : Text) : Except TooManyDigits Nat :=
  if digitLimit < digits.length then .error ⟨digits.length⟩ else .ok (digitsValue digits)

end ClassScope
