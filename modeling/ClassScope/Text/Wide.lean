import ClassScope.Text.Quoted
import ClassScope.Text.Word

/-!
# Wide texts

Texts that may hold surrogates. A surrogate is half of a pair of code units and names no character
when it stands alone, yet an escape in a document can name it alone. A wide text can be looked at
and put together like any other; it only cannot be written to a file.
-/

namespace ClassScope

/-- A code point: a character, or a surrogate that stands alone. -/
inductive CodePoint where
  /-- A character. -/
  | char (c : Char)
  /-- A surrogate, by its number. -/
  | surrogate (n : Nat)
  deriving DecidableEq, Repr

/-- A text that may hold surrogates. -/
abbrev WideText := List CodePoint

namespace CodePoint

/-- The code point is a surrogate. -/
def isSurrogate : CodePoint → Bool
  | .char _ => false
  | .surrogate _ => true

/-- The code point is a word character; no surrogate is one. -/
def isWord : CodePoint → Bool
  | .char c => Text.isWord c
  | .surrogate _ => false

/-- The code point in lower case, if it is an ASCII letter. -/
def toLower : CodePoint → CodePoint
  | .char c => .char c.toLower
  | .surrogate n => .surrogate n

end CodePoint

namespace WideText

/-- The wide text of a text. -/
def ofText (s : Text) : WideText := s.map .char

/-- The characters of a string as a wide text. -/
def of (s : String) : WideText := ofText (Text.of s)

/-- Texts are the same when their wide texts are. -/
theorem ofText_inj {s t : Text} : ofText s = ofText t ↔ s = t :=
  List.map_inj_right (by simp)

/-- Strings are the same when their wide texts are. -/
theorem of_inj {s t : String} : of s = of t ↔ s = t := by
  rw [of, of, ofText_inj, Text.of_inj]

/-- What stands for one code point between two quotes `quote`; a surrogate is not printable. -/
def quotedPoint (quote : Char) : CodePoint → Text
  | .char c => Text.quotedChar quote c
  | .surrogate n => ['\\', 'u'] ++ Text.hex 4 n

/-- The wide text between quotes, chosen as for a text. -/
def quoted (s : WideText) : Text :=
  let quote := if .char '\x27' ∈ s ∧ .char '\x22' ∉ s then '\x22' else '\x27'
  quote :: s.flatMap (quotedPoint quote) ++ [quote]

end WideText

end ClassScope
