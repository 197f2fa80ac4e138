import ClassScope.Text.Basic

/-!
# Blanks

The characters that count as whitespace, and what is done with them: a text is stripped of them at
its ends and split at them into words.
-/

namespace ClassScope.Text

/-- A whitespace character: the controls from tab to carriage return and from the file separator to
the unit separator, the space, the next-line control, and the Unicode spaces and separators. -/
def isBlank (c : Char) : Bool :=
  let n := c.toNat
  (0x09 ≤ n && n ≤ 0x0d) || (0x1c ≤ n && n ≤ 0x20) || n == 0x85 || n == 0xa0 || n == 0x1680 ||
    (0x2000 ≤ n && n ≤ 0x200a) || n == 0x2028 || n == 0x2029 || n == 0x202f || n == 0x205f ||
    n == 0x3000

/-- The text without the blanks at its start. -/
def stripLeft (s : Text) : Text := s.dropWhile isBlank

/-- The text without the blanks at its end. -/
def stripRight (s : Text) : Text := (s.reverse.dropWhile isBlank).reverse

/-- The text without the blanks at its two ends. -/
def strip (s : Text) : Text := stripRight (stripLeft s)

/-- The words of a text: its longest stretches without a blank. -/
def words (s : Text) : List Text := (splitBy isBlank s).filter (!·.isEmpty)

end ClassScope.Text
