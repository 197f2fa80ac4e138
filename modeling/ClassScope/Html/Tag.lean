import ClassScope.Html.Reference
import ClassScope.Text.Lowercase

/-!
# Tags

The tags of markup with their attributes. A tag that cannot be read is incomplete, or it is text;
the only error is a reference in the value of an attribute that holds too long a number.
-/

namespace ClassScope.Html

/-- An opening tag. -/
structure OpeningTag where
  /-- The name in lower case. -/
  name : Text
  /-- The attributes with their values, the last value of each. -/
  attributes : List (Text × Text)
  /-- The tag ends with a slash and so closes its element at once. -/
  closed : Bool
  deriving DecidableEq, Repr

/-- What starts with a `<` and a letter. -/
inductive Opening where
  /-- A tag, with the text after it. -/
  | tag (tag : OpeningTag) (rest : Text)
  /-- A tag that has no end. -/
  | incomplete
  /-- No tag but text, with the text after it. -/
  | text (rest : Text)
  deriving DecidableEq, Repr

/-- A character of a tag name after the first one. -/
def isTagNameChar (c : Char) : Bool := c ∉ ['\t', '\n', '\r', '\x0c', ' ', '/', '>', '\x00']

/-- A character of an attribute name after the first one. -/
def isAttributeNameChar (c : Char) : Bool :=
  !Text.isBlank c && c != '/' && c != '=' && c != '>'

/-- A character of a value without quotes. -/
def isBareChar (c : Char) : Bool := !Text.isBlank c && c != '>'

/-- A single or a double quote. -/
def isValueQuote (c : Char) : Bool := c == '\x27' || c == '\x22'

/-- The text after the blanks and the slashes in front of it. A slash that ends a tag is kept. -/
def skipSeparators : Text → Text
  | [] => []
  | '/' :: '>' :: s => '/' :: '>' :: s
  | c :: s => if Text.isBlank c || c == '/' then skipSeparators s else c :: s

/-- The value that follows an attribute name, with the text after it. A quote that is not closed
starts no value: blanks in front of it stand for an empty value, and of several equals signs the
last one starts a value without quotes. -/
def readValue? (s : Text) : Option (Text × Text) :=
  let s := Text.stripLeft s
  let signs := s.takeWhile (· == '=')
  let behind := s.dropWhile (· == '=')
  let value := Text.stripLeft behind
  let bare (s : Text) : Text × Text := (s.takeWhile isBareChar, s.dropWhile isBareChar)
  if signs = [] then none
  else
    match value with
    | [] => some ([], [])
    | c :: t =>
      if isValueQuote c then
        match t.dropWhile (· ≠ c) with
        | _ :: r => some (t.takeWhile (· ≠ c), r)
        | [] =>
          if value.length < behind.length then some ([], value)
          else if 2 ≤ signs.length then some (bare ('=' :: value))
          else none
      else some (bare value)

/-- A character that an attribute may start behind, besides a slash. -/
def endsName (c : Char) : Bool := isValueQuote c || Text.isBlank c

/-- The attributes at the front of a text with their values as written, in at most `fuel` steps, and
the text after them. An attribute may start behind a quote, a blank or a slash; `mayStart` says that
one of these has just been read. -/
def readAttributes (fuel : Nat) (mayStart : Bool) (s : Text) : List (Text × Text) × Text :=
  let r := skipSeparators s
  match fuel, r with
  | fuel + 1, c :: t =>
    if (mayStart || r.length < s.length) && c != '/' && c != '>' then
      let name := c :: t.takeWhile isAttributeNameChar
      let r := t.dropWhile isAttributeNameChar
      match readValue? r with
      | some (value, r) =>
        let (attributes, r) := readAttributes fuel true r
        ((name, value) :: attributes, r)
      | none =>
        let (attributes, r) := readAttributes fuel (name.getLast?.any endsName) r
        ((name, []) :: attributes, r)
    else ([], r)
  | _, _ => ([], r)

/-- The attributes by their names in lower case, with the references in their values replaced. Of
several with one name the last counts. -/
def resolveAttributes (attributes : List (Text × Text)) :
    Except TooManyDigits (List (Text × Text)) :=
  attributes.foldlM
    (fun resolved (name, value) => do
      return Table.put (Text.lower name) (← unescape value) resolved)
    []

/-- What the text behind a `<` is, if it starts with a letter. -/
def readOpening (s : Text) : Except TooManyDigits Opening :=
  let name := s.takeWhile isTagNameChar
  let r := s.dropWhile isTagNameChar
  let (attributes, r) := readAttributes r.length (name.getLast?.any endsName) r
  let finish (opening : List (Text × Text) → Opening) : Except TooManyDigits Opening :=
    opening <$> resolveAttributes attributes
  match r with
  | '>' :: r => finish fun attributes => .tag ⟨Text.lower name, attributes, false⟩ r
  | '/' :: '>' :: r => finish fun attributes => .tag ⟨Text.lower name, attributes, true⟩ r
  | [] => .ok .incomplete
  | c :: r =>
    if Text.isAsciiLetter c || c == '=' || c == '/' then .ok .incomplete
    else finish fun _ => .text (c :: r)

/-! ## Closing tags -/

/-- What starts with a `<` and a slash. -/
inductive Closing where
  /-- A closing tag, given by its name in lower case, with the text after it. -/
  | tag (name rest : Text)
  /-- Nothing that closes an element, with the text after it. -/
  | skipped (rest : Text)
  /-- A tag that has no end. -/
  | incomplete
  deriving DecidableEq, Repr

/-- The text after the first `>`. -/
def afterEnd? (s : Text) : Option Text :=
  match s.dropWhile (· ≠ '>') with
  | [] => none
  | _ :: r => some r

/-- A character of the name of a closing tag after the first one, in its strict shape. -/
def isClosingNameChar (c : Char) : Bool :=
  Text.isAsciiWord c || c == '-' || c == '.' || c == ':'

/-- The closing tag in its strict shape: a name, with blanks around it perhaps, and the end. -/
def readStrictClosing? (s : Text) : Option (Text × Text) :=
  match Text.stripLeft s with
  | [] => none
  | c :: t =>
    if Text.isAsciiLetter c then
      match Text.stripLeft (t.dropWhile isClosingNameChar) with
      | '>' :: r => some (c :: t.takeWhile isClosingNameChar, r)
      | _ => none
    else none

/-- What the text behind `</` is. -/
def readClosing (s : Text) : Closing :=
  match afterEnd? s with
  | none => .incomplete
  | some rest =>
    match readStrictClosing? s with
    | some (name, r) => .tag (Text.lower name) r
    | none =>
      if s.head?.any Text.isAsciiLetter then
        match afterEnd? (s.dropWhile isTagNameChar) with
        | some r => .tag (Text.lower (s.takeWhile isTagNameChar)) r
        | none => .incomplete
      else .skipped rest

end ClassScope.Html
