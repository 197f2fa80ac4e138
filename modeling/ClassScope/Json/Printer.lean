import ClassScope.Json.Value

/-!
# Printing JSON

Two ways to write JSON: whole documents, one member or item a line with an indentation of two spaces
for each level, and values on one line in printable ASCII alone, which may stand inside a script. A
surrogate, which has no bytes, is written as an escape in both.
-/

namespace ClassScope.Json

/-! ## Strings -/

/-- The letter after the backslash in the short escape of a character. -/
def shortEscape? (c : Char) : Option Char :=
  if c = '\x22' then some '\x22'
  else if c = '\\' then some '\\'
  else if c = '\n' then some 'n'
  else if c = '\r' then some 'r'
  else if c = '\t' then some 't'
  else if c = '\x08' then some 'b'
  else if c = '\x0c' then some 'f'
  else none

/-- The escape of a code unit. -/
def unitEscape (n : Nat) : Text := ['\\', 'u'] ++ Text.hex 4 n

/-- A code point inside a string: of the characters only quotes, backslashes and controls are
escaped. -/
def literalPoint : CodePoint → Text
  | .surrogate n => unitEscape n
  | .char c =>
    match shortEscape? c with
    | some e => ['\\', e]
    | none => if c.toNat < 0x20 then unitEscape c.toNat else [c]

/-- A character inside a string of printable ASCII; beyond 16 bits it takes two code units. -/
def asciiChar (c : Char) : Text :=
  match shortEscape? c with
  | some e => ['\\', e]
  | none =>
    let n := c.toNat
    if 0x20 ≤ n ∧ n < 0x7f then [c]
    else if n < 0x10000 then unitEscape n
    else
      unitEscape (0xd800 + (n - 0x10000) / 0x400) ++ unitEscape (0xdc00 + (n - 0x10000) % 0x400)

/-- A text as a string literal. -/
def literal (s : WideText) : Text := ['\x22'] ++ s.flatMap literalPoint ++ ['\x22']

/-- A text as a string literal of printable ASCII. -/
def asciiLiteral (s : Text) : Text := ['\x22'] ++ s.flatMap asciiChar ++ ['\x22']

/-! ## Documents -/

/-- A line feed and the indentation of a level. -/
def newLine (level : Nat) : Text := '\n' :: List.replicate (2 * level) ' '

/-- The names of numbers that are not finite. -/
def floatLiteral : Binary64 → Text
  | .nan => Text.of "NaN"
  | .infinite negative => (if negative then ['-'] else []) ++ Text.of "Infinity"
  | x => x.write numberStyle

mutual

/-- A value whose first line is indented already, and whose members are at `level + 1`. -/
def printAt (level : Nat) : Json → Text
  | .null => Text.of "null"
  | .bool true => Text.of "true"
  | .bool false => Text.of "false"
  | .int n => intText n
  | .float x => floatLiteral x
  | .string s => literal s
  | .array [] => Text.of "[]"
  | .array (v :: items) =>
    ['['] ++ printItems (level + 1) (v :: items) ++ newLine level ++ [']']
  | .object [] => ['\x7b', '\x7d']
  | .object (m :: members) =>
    ['\x7b'] ++ printMembers (level + 1) (m :: members) ++ newLine level ++ ['\x7d']

/-- The items of an array, each on a line of its own. -/
def printItems (level : Nat) : List Json → Text
  | [] => []
  | [v] => newLine level ++ printAt level v
  | v :: w :: items => newLine level ++ printAt level v ++ [','] ++ printItems level (w :: items)

/-- The members of an object, each on a line of its own. -/
def printMembers (level : Nat) : List (WideText × Json) → Text
  | [] => []
  | [(n, v)] => newLine level ++ literal n ++ Text.of ": " ++ printAt level v
  | (n, v) :: m :: members =>
    newLine level ++ literal n ++ Text.of ": " ++ printAt level v ++ [','] ++
      printMembers level (m :: members)

end

/-- The document of a value. -/
def print (v : Json) : Text := printAt 0 v

/-! ## Values on one line -/

/-- A code point inside a string of printable ASCII. -/
def asciiPoint : CodePoint → Text
  | .char c => asciiChar c
  | .surrogate n => unitEscape n

/-- A wide text as a string literal of printable ASCII. -/
def asciiWideLiteral (s : WideText) : Text := ['\x22'] ++ s.flatMap asciiPoint ++ ['\x22']

mutual

/-- A value on one line, in printable ASCII. -/
def asciiPrint : Json → Text
  | .string s => asciiWideLiteral s
  | .array items => ['['] ++ asciiItems items ++ [']']
  | .object members => ['\x7b'] ++ asciiMembers members ++ ['\x7d']
  | v => printAt 0 v

/-- The items of an array, separated by commas. -/
def asciiItems : List Json → Text
  | [] => []
  | [v] => asciiPrint v
  | v :: w :: items => asciiPrint v ++ Text.of ", " ++ asciiItems (w :: items)

/-- The members of an object, separated by commas. -/
def asciiMembers : List (WideText × Json) → Text
  | [] => []
  | [(n, v)] => asciiWideLiteral n ++ Text.of ": " ++ asciiPrint v
  | (n, v) :: m :: members =>
    asciiWideLiteral n ++ Text.of ": " ++ asciiPrint v ++ Text.of ", " ++
      asciiMembers (m :: members)

end

end ClassScope.Json
