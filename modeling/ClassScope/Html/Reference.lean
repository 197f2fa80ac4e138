import ClassScope.Html.NamedCharacters
import ClassScope.Number.Digits
import ClassScope.Table

/-!
# Character references

References such as `&amp;` and `&#65;` in attribute values and what they stand for. A numeric
reference to a code point that no document may hold stands for nothing or for a replacement; a name
that is not known stays as it is, apart from an old name at its front. A decimal number of too many
digits is an error.
-/

namespace ClassScope.Html

/-- The characters of the code points from 0x80 to 0x9f, which are taken from an old code page. -/
def oldCodePage : List Nat :=
  [0x20ac, 0x81, 0x201a, 0x192, 0x201e, 0x2026, 0x2020, 0x2021, 0x2c6, 0x2030, 0x160, 0x2039, 0x152,
    0x8d, 0x17d, 0x8f, 0x90, 0x2018, 0x2019, 0x201c, 0x201d, 0x2022, 0x2013, 0x2014, 0x2dc, 0x2122,
    0x161, 0x203a, 0x153, 0x9d, 0x17e, 0x178]

/-- A code point that is left out of a document. -/
def isLeftOut (n : Nat) : Bool :=
  (0x1 ≤ n && n ≤ 0x8) || n == 0xb || (0xe ≤ n && n ≤ 0x1f) || n == 0x7f ||
    (0xfdd0 ≤ n && n ≤ 0xfdef) || n % 0x10000 == 0xfffe || n % 0x10000 == 0xffff

/-- The characters that a numeric reference stands for. -/
def numbered (n : Nat) : Text :=
  if n = 0 then ['\ufffd']
  else if 0x80 ≤ n ∧ n ≤ 0x9f then [Char.ofNat (oldCodePage.getD (n - 0x80) n)]
  else if (0xd800 ≤ n ∧ n ≤ 0xdfff) ∨ 0x10ffff < n then ['\ufffd']
  else if isLeftOut n then []
  else [Char.ofNat n]

/-- A digit of a hexadecimal number. -/
def isHexDigit (c : Char) : Bool :=
  Text.isAsciiDigit c || ('a' ≤ c && c ≤ 'f') || ('A' ≤ c && c ≤ 'F')

/-- What a replaced stretch of text gives: what stands for it, and the text after it. -/
abbrev Replaced := Except TooManyDigits (Text × Text)

/-- The numeric reference whose number sign stands in front of a text. -/
def readNumbered? (s : Text) : Option Replaced :=
  let afterSemicolon (s : Text) : Text := if s.head? = some ';' then s.drop 1 else s
  match s with
  | [] => none
  | c :: t =>
    if c = 'x' ∨ c = 'X' then
      let digits := t.takeWhile isHexDigit
      if digits = [] then none
      else
        let number := hexNumber (digits.map Char.toLower)
        some (.ok (numbered number, afterSemicolon (t.dropWhile isHexDigit)))
    else
      let digits := s.takeWhile Text.isAsciiDigit
      if digits = [] then none
      else
        some ((readWholeNumber digits).map fun number =>
          (numbered number, afterSemicolon (s.dropWhile Text.isAsciiDigit)))

/-- A character of the name of a reference. -/
def isReferenceChar (c : Char) : Bool := c ∉ ['\t', '\n', '\x0c', ' ', '<', '&', '#', ';']

/-- The characters of the longest old name at the front of a text of at most `length` characters,
with the rest of that text. -/
def readOldName? (name : Text) : (length : Nat) → Option (Text × Text)
  | 0 => none
  | length + 1 =>
    let front := name.take (length + 1)
    if oldNames.contains front then
      (Table.get? namedCharacters front).map (·, name.drop (length + 1))
    else readOldName? name length

/-- What stands for a name, followed by a semicolon or not. -/
def named (name : Text) (closed : Bool) : Text :=
  let asIs := '&' :: name ++ (if closed then [';'] else [])
  let whole := if closed then Table.get? namedCharacters name else none
  match whole with
  | some characters => characters
  | none =>
    match readOldName? name name.length with
    | some (characters, rest) => characters ++ rest ++ (if closed then [';'] else [])
    | none => asIs

/-- What the text behind an ampersand stands for with it, and the text after that. -/
def readReference? : Text → Option Replaced
  | '#' :: s => readNumbered? s
  | s =>
    let name := (s.takeWhile isReferenceChar).take 32
    if name = [] then none
    else
      match s.drop name.length with
      | ';' :: r => some (.ok (named name true, r))
      | r => some (.ok (named name false, r))

/-- The text with its references replaced, in at most `fuel` steps. -/
def unescapeFrom : (fuel : Nat) → Text → Except TooManyDigits Text
  | 0, s => .ok s
  | _, [] => .ok []
  | fuel + 1, c :: s =>
    if c = '&' then
      match readReference? s with
      | some replaced => do
        let (characters, r) ← replaced
        return characters ++ (← unescapeFrom fuel r)
      | none => (c :: ·) <$> unescapeFrom fuel s
    else (c :: ·) <$> unescapeFrom fuel s

/-- The text with its references replaced. Every step reads a character at least. -/
def unescape (s : Text) : Except TooManyDigits Text := unescapeFrom s.length s

end ClassScope.Html
