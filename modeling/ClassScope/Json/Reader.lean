import ClassScope.Json.Value
import ClassScope.Number.Digits

/-!
# Reading JSON

A reader of JSON texts. Beyond the standard it takes `NaN`, `Infinity` and `-Infinity`. A failure
says what was expected and keeps the text that was left to read there, which gives its place. Whole
numbers of too many digits and values nested too deeply are not read.
-/

namespace ClassScope.Json

/-- What is wrong at the place where reading stops. -/
inductive Fault where
  /-- No value starts here. -/
  | expectedValue
  /-- A member name has to start here. -/
  | expectedName
  /-- A colon has to follow the name. -/
  | expectedColon
  /-- A comma or the closing bracket has to follow. -/
  | expectedComma
  /-- The string that starts here has no end. -/
  | openString
  /-- A control character stands in a string. -/
  | controlCharacter
  /-- The backslash starts no escape. -/
  | badEscape
  /-- Four hexadecimal digits have to follow the letter. -/
  | badUnicodeEscape
  /-- There is more text after the value. -/
  | extraText
  /-- The text starts with a byte-order mark. -/
  | byteOrderMark
  /-- A whole number has too many digits. -/
  | longNumber (e : TooManyDigits)
  /-- The array that starts here lies too deep. -/
  | deepArray
  /-- The object that starts here lies too deep. -/
  | deepObject
  deriving DecidableEq, Repr

/-- A fault with the text that was left to read. -/
structure Failure where
  /-- What is wrong. -/
  fault : Fault
  /-- The text from the place of the fault on. -/
  rest : Text
  deriving DecidableEq, Repr

/-- What a reading step gives: a value and the text after it. -/
abbrev Read (α : Type) := Except Failure (α × Text)

/-- A step that fails here. -/
def fail {α : Type} (fault : Fault) (rest : Text) : Read α := .error ⟨fault, rest⟩

/-- Space, tab, line feed and carriage return. -/
def isSpace (c : Char) : Bool := c == ' ' || c == '\t' || c == '\n' || c == '\r'

/-- The text after the space at its front. -/
def skipSpace (s : Text) : Text := s.dropWhile isSpace

/-! ## Strings -/

/-- The value of a hexadecimal digit. -/
def hexValue? (c : Char) : Option Nat :=
  if Text.isAsciiDigit c then some (c.toNat - 0x30)
  else if 'a' ≤ c ∧ c ≤ 'f' then some (c.toNat - 0x57)
  else if 'A' ≤ c ∧ c ≤ 'F' then some (c.toNat - 0x37)
  else none

/-- A code unit of four hexadecimal digits, which must not end the text. -/
def codeUnit? : Text → Option (Nat × Text)
  | a :: b :: c :: d :: e :: s => do
    let a ← hexValue? a
    let b ← hexValue? b
    let c ← hexValue? c
    let d ← hexValue? d
    some (((a * 16 + b) * 16 + c) * 16 + d, e :: s)
  | _ => none

/-- A code unit takes up four characters. -/
theorem length_of_codeUnit? {s r : Text} {n : Nat} (h : codeUnit? s = some (n, r)) :
    r.length + 4 = s.length := by
  unfold codeUnit? at h
  split at h
  · simp only [Option.bind_eq_bind, Option.bind_eq_some_iff, Option.some.injEq, Prod.mk.injEq] at h
    obtain ⟨_, _, _, _, _, _, _, _, _, rfl⟩ := h
    simp
  · simp at h

/-- The first of a pair of code units for one character. -/
def isHighUnit (n : Nat) : Bool := 0xd800 ≤ n && n < 0xdc00

/-- The second of a pair of code units for one character. -/
def isLowUnit (n : Nat) : Bool := 0xdc00 ≤ n && n < 0xe000

/-- The code point of a code unit that is not one of a pair. -/
def unitPoint (n : Nat) : CodePoint :=
  if 0xd800 ≤ n ∧ n < 0xe000 then .surrogate n else .char (Char.ofNat n)

/-- The character of a pair of code units. -/
def pairChar (high low : Nat) : Char :=
  Char.ofNat (0x10000 + (high - 0xd800) * 0x400 + (low - 0xdc00))

/-- The character that a one-letter escape stands for. -/
def escapedChar? : Char → Option Char
  | '\x22' => some '\x22'
  | '\\' => some '\\'
  | '/' => some '/'
  | 'b' => some '\x08'
  | 'f' => some '\x0c'
  | 'n' => some '\n'
  | 'r' => some '\r'
  | 't' => some '\t'
  | _ => none

/-- What a code unit of an escape stands for, with the text after it: a high unit looks for its
partner in the escape that follows, if that one does not end the text. -/
def readUnit (unit : Nat) (s : Text) : Read CodePoint :=
  match isHighUnit unit, s with
  | true, '\\' :: 'u' :: a :: b :: c :: d :: e :: r =>
    match codeUnit? (a :: b :: c :: d :: e :: r) with
    | none => fail .badUnicodeEscape ('u' :: a :: b :: c :: d :: e :: r)
    | some (low, _) =>
      if isLowUnit low then .ok (.char (pairChar unit low), e :: r) else .ok (unitPoint unit, s)
  | _, _ => .ok (unitPoint unit, s)

/-- Reading a code unit never gives back more text than it was given. -/
theorem length_le_of_readUnit {unit : Nat} {s r : Text} {c : CodePoint}
    (h : readUnit unit s = .ok (c, r)) : r.length ≤ s.length := by
  unfold readUnit at h
  split at h
  · split at h
    · simp [fail] at h
    · split at h
      · simp only [Except.ok.injEq, Prod.mk.injEq] at h
        obtain ⟨_, rfl⟩ := h
        simp only [List.length_cons]
        omega
      · simp only [Except.ok.injEq, Prod.mk.injEq] at h
        simp [h.2]
  · simp only [Except.ok.injEq, Prod.mk.injEq] at h
    simp [h.2]

/-- The escape at the front of a text, with the text after it. -/
def readEscape (opening : Text) : Text → Read CodePoint
  | '\\' :: 'u' :: s =>
    match codeUnit? s with
    | none => fail .badUnicodeEscape ('u' :: s)
    | some (unit, r) => readUnit unit r
  | '\\' :: c :: s =>
    match escapedChar? c with
    | none => fail .badEscape ('\\' :: c :: s)
    | some e => .ok (.char e, s)
  | _ => fail .openString opening

/-- Reading an escape shortens the text. -/
theorem length_lt_of_readEscape {opening s r : Text} {c : CodePoint}
    (h : readEscape opening s = .ok (c, r)) : r.length < s.length := by
  unfold readEscape at h
  split at h
  · split at h
    · simp [fail] at h
    · rename_i hu
      have h1 := length_le_of_readUnit h
      have h2 := length_of_codeUnit? hu
      simp only [List.length_cons]
      omega
  · split at h
    · simp [fail] at h
    · simp only [Except.ok.injEq, Prod.mk.injEq] at h
      rw [← h.2]
      simp only [List.length_cons]
      omega
  · simp [fail] at h

/-- The code points of a string up to its closing quote; `opening` starts at the opening one. -/
def readPoints (opening : Text) : Text → Read WideText
  | [] => fail .openString opening
  | c :: s =>
    if c = '\x22' then .ok ([], s)
    else if c = '\\' then
      match _h : readEscape opening (c :: s) with
      | .error failure => .error failure
      | .ok (e, r) =>
        match readPoints opening r with
        | .error failure => .error failure
        | .ok (text, r) => .ok (e :: text, r)
    else if c.toNat < 0x20 then fail .controlCharacter (c :: s)
    else
      match readPoints opening s with
      | .error failure => .error failure
      | .ok (text, r) => .ok (.char c :: text, r)
termination_by s => s.length
decreasing_by
  · exact length_lt_of_readEscape _h
  · simp

/-- The string whose opening quote stands in front of `s`. -/
def readString (s : Text) : Read WideText := readPoints ('\x22' :: s) s

/-! ## Numbers -/

/-- The digits at the front of a text, and the text after them. -/
def takeDigits (s : Text) : Text × Text :=
  (s.takeWhile Text.isAsciiDigit, s.dropWhile Text.isAsciiDigit)

/-- The whole part of a number: a zero, or digits that start with another one. -/
def readWhole? : Text → Option (Text × Text)
  | '0' :: s => some (['0'], s)
  | s =>
    let (digits, r) := takeDigits s
    if digits.isEmpty then none else some (digits, r)

/-- The fraction digits, where a point and a digit stand at the front. -/
def readFraction? : Text → Option (Text × Text)
  | '.' :: s =>
    let (digits, r) := takeDigits s
    if digits.isEmpty then none else some (digits, r)
  | _ => none

/-- The exponent, where a letter `e`, perhaps a sign, and a digit stand at the front. -/
def readExponent? : Text → Option (Int × Text)
  | [] => none
  | c :: s =>
    if c = 'e' ∨ c = 'E' then
      let (negative, s) :=
        match s with
        | '-' :: s => (true, s)
        | '+' :: s => (false, s)
        | s => (false, s)
      let (digits, r) := takeDigits s
      if digits.isEmpty then none
      else
        let n : Int := digitsValue digits
        some (if negative then -n else n, r)
    else none

/-- A number without its sign, if one stands at the front of a text. -/
def readUnsigned? (negative : Bool) (s : Text) : Option (Except TooManyDigits Json × Text) := do
  let (whole, s) ← readWhole? s
  let fraction := readFraction? s
  let (places, s) := fraction.getD ([], s)
  let exponent := readExponent? s
  let (power, s) := exponent.getD (0, s)
  if fraction.isNone && exponent.isNone then
    let number : Except TooManyDigits Json := do
      let n : Int := ← readWholeNumber whole
      return .int (if negative then -n else n)
    some (number, s)
  else
    let x := Binary64.ofDecimal negative (digitsValue (whole ++ places)) (power - places.length)
    some (.ok (.float x), s)

/-- A number, if one stands at the front of a text. -/
def readNumber? : Text → Option (Except TooManyDigits Json × Text)
  | '-' :: s => readUnsigned? true s
  | s => readUnsigned? false s

/-! ## Values -/

/-- The names of values. -/
def names : List (String × Json) :=
  [("null", .null), ("true", .bool true), ("false", .bool false), ("NaN", .float .nan),
    ("Infinity", .float (.infinite false)), ("-Infinity", .float (.infinite true))]

/-- The named value at the front of a text. -/
def readNamed? (s : Text) : Option (Json × Text) :=
  names.findSome? fun (name, value) => (Text.after? (Text.of name) s).map fun r => (value, r)

/-- The named value or the number at the front of a text. -/
def readPlain (s : Text) : Read Json :=
  match readNamed? s, readNumber? s with
  | some found, _ => .ok found
  | none, some (.ok value, r) => .ok (value, r)
  | none, some (.error e, r) => fail (.longNumber e) r
  | none, none => fail .expectedValue s

/-- How many arrays and objects may lie in one another. -/
def depthLimit : Nat := 990

mutual

/-- The value at the front of a text, with room for `room` arrays and objects in one another, in at
most `fuel` steps down. -/
def readValue : (fuel room : Nat) → Text → Read Json
  | 0, _, s => fail .expectedValue s
  | fuel + 1, room, s =>
    match s, room with
    | '\x22' :: r, _ =>
      match readString r with
      | .error failure => .error failure
      | .ok (text, r) => .ok (.string text, r)
    | '[' :: _, 0 => fail .deepArray s
    | '[' :: r, room + 1 =>
      match skipSpace r with
      | ']' :: r => .ok (.array [], r)
      | r =>
        match readItems fuel room r with
        | .error failure => .error failure
        | .ok (items, r) => .ok (.array items, r)
    | '\x7b' :: _, 0 => fail .deepObject s
    | '\x7b' :: r, room + 1 =>
      match skipSpace r with
      | '\x7d' :: r => .ok (.object [], r)
      | r =>
        match readMembers fuel room [] r with
        | .error failure => .error failure
        | .ok (members, r) => .ok (.object members, r)
    | s, _ => readPlain s

/-- The items of an array, from the first one to the closing bracket. -/
def readItems : (fuel room : Nat) → Text → Read (List Json)
  | 0, _, s => fail .expectedValue s
  | fuel + 1, room, s =>
    match readValue fuel room s with
    | .error failure => .error failure
    | .ok (value, r) =>
      match skipSpace r with
      | ']' :: r => .ok ([value], r)
      | ',' :: r =>
        match readItems fuel room (skipSpace r) with
        | .error failure => .error failure
        | .ok (items, r) => .ok (value :: items, r)
      | r => fail .expectedComma r

/-- The members of an object, from the first name to the closing brace, after those in `members`. -/
def readMembers : (fuel room : Nat) → List (WideText × Json) → Text →
    Read (List (WideText × Json))
  | 0, _, _, s => fail .expectedName s
  | fuel + 1, room, members, s =>
    match s with
    | '\x22' :: r =>
      match readString r with
      | .error failure => .error failure
      | .ok (name, r) =>
        match skipSpace r with
        | ':' :: r =>
          match readValue fuel room (skipSpace r) with
          | .error failure => .error failure
          | .ok (value, r) =>
            match skipSpace r with
            | '\x7d' :: r => .ok (Table.put name value members, r)
            | ',' :: r => readMembers fuel room (Table.put name value members) (skipSpace r)
            | r => fail .expectedComma r
        | r => fail .expectedColon r
    | s => fail .expectedName s

end

/-- The document that a text is; twice its length bounds the steps down. -/
def read (s : Text) : Except Failure Json :=
  if s.head? = some '\ufeff' then .error ⟨.byteOrderMark, s⟩
  else
    match readValue (2 * s.length + 2) depthLimit (skipSpace s) with
    | .error failure => .error failure
    | .ok (value, r) =>
      match skipSpace r with
      | [] => .ok value
      | r => .error ⟨.extraText, r⟩

/-! ## Failures -/

/-- The wording of a fault; faults of the syntax are followed by their place. -/
def Fault.message : Fault → String
  | .expectedValue => "Expecting value"
  | .expectedName => "Expecting property name enclosed in double quotes"
  | .expectedColon => "Expecting ':' delimiter"
  | .expectedComma => "Expecting ',' delimiter"
  | .openString => "Unterminated string starting at"
  | .controlCharacter => "Invalid control character at"
  | .badEscape => "Invalid \\escape"
  | .badUnicodeEscape => "Invalid \\uXXXX escape"
  | .extraText => "Extra data"
  | .byteOrderMark => "Unexpected UTF-8 BOM (decode using utf-8-sig)"
  | .longNumber e => e.message
  | .deepArray =>
    "maximum recursion depth exceeded while decoding a JSON array from a unicode string"
  | .deepObject =>
    "maximum recursion depth exceeded while decoding a JSON object from a unicode string"

/-- Values are nested too deeply. -/
def Fault.isDepth (fault : Fault) : Bool := fault == .deepArray || fault == .deepObject

/-- The fault is one of the syntax, which has a place. -/
def Fault.isSyntax : Fault → Bool
  | .longNumber _ | .deepArray | .deepObject => false
  | _ => true

/-- The wording of a failure in a text: the fault, and if it has a place, its line, its column and
its offset. -/
def Failure.message (failure : Failure) (s : Text) : String :=
  let place := s.length - failure.rest.length
  let before := s.take place
  let line := before.count '\n' + 1
  let column := (before.reverse.takeWhile (· ≠ '\n')).length + 1
  failure.fault.message ++
    if failure.fault.isSyntax then s!": line {line} column {column} (char {place})" else ""

end ClassScope.Json
