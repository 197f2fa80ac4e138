import ClassScope.Build.Config
import ClassScope.Text.Blank
import ClassScope.Text.Lines

/-!
# Files of variables

A file of variables has a binding a line, such as `NAME=value`. Values may be quoted, may span lines
when they are, and may refer to other variables as `${NAME}` or `${NAME:-default}`. A line that is
no binding is passed over. The variables of the environment win over those of a file.
-/

namespace ClassScope.EnvFile

/-- A name with its value; a name without an equals sign has none. -/
structure Binding where
  /-- The name. -/
  name : Text
  /-- The value, if one is given. -/
  value : Option Text
  deriving DecidableEq, Repr

/-! ## Reading -/

/-- A blank that does not end the line. -/
def isInlineBlank (c : Char) : Bool := Text.isBlank c && c != '\n'

/-- The text after the blanks in front of it, on the same line. -/
def skipInline (s : Text) : Text := s.dropWhile isInlineBlank

/-- The text after the word `export` and the blanks behind it, if they stand in front. -/
def skipExport (s : Text) : Text :=
  match Text.after? (Text.of "export") s with
  | some (c :: r) => if isInlineBlank c then skipInline r else s
  | _ => s

/-- A character of a name that stands without quotes. -/
def isNameChar (c : Char) : Bool := c != '=' && c != '#' && !Text.isBlank c

/-- The name at the front of a text: in single quotes or without. -/
def readName? : Text → Option (Text × Text)
  | '\x27' :: s =>
    match s.takeWhile (· ≠ '\x27'), s.dropWhile (· ≠ '\x27') with
    | c :: name, _ :: r => some (c :: name, r)
    | _, _ => none
  | s =>
    match s.takeWhile isNameChar with
    | [] => none
    | name => some (name, s.dropWhile isNameChar)

/-- What an escape in a quoted value stands for, if it is one between quotes `quote`. -/
def unescaped? (quote c : Char) : Option Char :=
  if c = '\\' ∨ c = '\x27' then some c
  else if quote = '\x27' then none
  else
    match c with
    | '\x22' => some '\x22'
    | 'a' => some '\x07'
    | 'b' => some '\x08'
    | 'f' => some '\x0c'
    | 'n' => some '\n'
    | 'r' => some '\r'
    | 't' => some '\t'
    | 'v' => some '\x0b'
    | _ => none

/-- The rest of a value between quotes `quote`, up to the closing one. -/
def readQuoted? (quote : Char) : Text → Option (Text × Text)
  | [] => none
  | '\\' :: c :: s =>
    (readQuoted? quote s).map fun (value, r) =>
      (match unescaped? quote c with
        | some e => e :: value
        | none => '\\' :: c :: value, r)
  | c :: s =>
    if c = quote then some ([], s)
    else if c = '\\' then none
    else (readQuoted? quote s).map fun (value, r) => (c :: value, r)

/-- The text without the comment at its end, which starts with blanks and a number sign. -/
def cutComment : Text → Text
  | [] => []
  | c :: s =>
    if Text.isBlank c && (s.dropWhile Text.isBlank).head? == some '#' then []
    else c :: cutComment s

/-- The value that stands behind an equals sign. -/
def readValue? (s : Text) : Option (Text × Text) :=
  let r := skipInline s
  match r with
  | [] => some ([], r)
  | c :: t =>
    if c = '\n' then some ([], r)
    else if c = '#' ∧ r.length < s.length then some ([], r)
    else if c = '\x27' ∨ c = '\x22' then readQuoted? c t
    else some (Text.stripRight (cutComment (Text.line r)), r.dropWhile (· ≠ '\n'))

/-- The text after a comment, if one stands in front, and after the end of the line. -/
def readLineEnd? (s : Text) : Option Text :=
  let s := skipInline s
  let s := if s.head? = some '#' then s.dropWhile (· ≠ '\n') else s
  match s with
  | [] => some []
  | '\n' :: r => some r
  | _ => none

/-- The binding at the front of a text, or none for a comment. What fails leaves the text it failed
at. -/
def readBinding (s : Text) : Except Text (Option Binding × Text) :=
  let finish (binding : Option Binding) (s : Text) : Except Text (Option Binding × Text) :=
    match readLineEnd? s with
    | some r => .ok (binding, r)
    | none => .error s
  let s := skipExport s
  if s.head? = some '#' then finish none s
  else
    match readName? s with
    | none => .error s
    | some (name, s) =>
      match skipInline s with
      | '=' :: t =>
        match readValue? t with
        | some (value, s) => finish (some ⟨name, some value⟩) s
        | none => .error (skipInline t)
      | s => finish (some ⟨name, none⟩) s

/-- The bindings of a text, in at most `fuel` steps. -/
def readFrom : (fuel : Nat) → Text → List Binding
  | 0, _ => []
  | fuel + 1, s =>
    match Text.stripLeft s with
    | [] => []
    | s =>
      match readBinding s with
      | .ok (binding, r) => binding.toList ++ readFrom fuel r
      | .error r => readFrom fuel (Text.afterLine r)

/-- The bindings of a text in order. Every step reads a character at least. -/
def read (s : Text) : List Binding := readFrom (s.length + 1) s

/-- The bindings of the contents of a file. A byte-order mark in front is dropped. -/
def ofContents (s : Text) : List Binding :=
  let s := Text.unifyLineEnds s
  read (if s.head? = some '\ufeff' then s.drop 1 else s)

/-! ## Expansion -/

/-- A part of a value. -/
inductive Part where
  /-- A character that stands for itself. -/
  | char (c : Char)
  /-- A reference to a variable, with a default perhaps. -/
  | reference (name : Text) (otherwise : Option Text)
  deriving DecidableEq, Repr

/-- The reference whose opening brace stands in front of a text. -/
def readReference? (s : Text) : Option (Part × Text) :=
  let isEnd (c : Char) : Bool := c == '\x7d'
  let name := s.takeWhile fun c => !isEnd c && c != ':'
  match s.dropWhile fun c => !isEnd c && c != ':' with
  | ':' :: '-' :: t =>
    match t.dropWhile (!isEnd ·) with
    | [] => none
    | _ :: r => some (.reference name (some (t.takeWhile (!isEnd ·))), r)
  | c :: r => if isEnd c then some (.reference name none, r) else none
  | [] => none

/-- The parts of a value, in at most `fuel` steps. -/
def partsFrom : (fuel : Nat) → Text → List Part
  | 0, _ => []
  | _, [] => []
  | fuel + 1, c :: s =>
    match c, s with
    | '$', '\x7b' :: t =>
      match readReference? t with
      | some (part, r) => part :: partsFrom fuel r
      | none => .char c :: partsFrom fuel s
    | _, _ => .char c :: partsFrom fuel s

/-- The parts of a value. Every step reads a character at least. -/
def parts (s : Text) : List Part := partsFrom s.length s

/-- What a name stands for: the environment comes first, then the earlier bindings, where a name
without a value is empty, then the default. -/
def lookUp (environment : Environment) (earlier : List (Text × Option Text)) (name : Text)
    (otherwise : Option Text) : Text :=
  match Table.get? environment name with
  | some value => value
  | none =>
    match Table.get? earlier name with
    | some value => value.getD []
    | none => otherwise.getD []

/-- A value with its references replaced. -/
def expandValue (environment : Environment) (earlier : List (Text × Option Text)) (value : Text) :
    Text :=
  (parts value).flatMap fun
    | .char c => [c]
    | .reference name otherwise => lookUp environment earlier name otherwise

/-- The names with their values after expansion. The last binding of a name counts. -/
def expand (environment : Environment) (bindings : List Binding) : List (Text × Option Text) :=
  bindings.foldl
    (fun earlier binding =>
      Table.put binding.name (binding.value.map (expandValue environment earlier)) earlier)
    []

/-! ## Setting variables -/

/-- The variable that keeps files of variables from being read. -/
def switchName : String := "PYTHON_DOTENV_DISABLED"

/-- The words that mean yes. -/
def yesWords : List Text := ["1", "true", "t", "yes", "y"].map String.toList

/-- A character in lower case, where the long s is an s. -/
def foldCase (c : Char) : Char := if c = '\u017f' then 's' else c.toLower

/-- The environment says that files of variables are not to be read. -/
def isSwitchedOff (environment : Environment) : Bool :=
  match Table.get? environment (Text.of switchName) with
  | none => false
  | some value => yesWords.contains (value.map foldCase)

/-- Why a variable cannot be set. -/
inductive Fault where
  /-- The name or the value holds a null character. -/
  | nullCharacter
  /-- The name holds an equals sign. -/
  | illegalName
  deriving DecidableEq, Repr

/-- The wording of a fault. -/
def Fault.message : Fault → String
  | .nullCharacter => "embedded null byte"
  | .illegalName => "illegal environment variable name"

/-- Sets the variables of a file that have a value and are not set yet. -/
def extend (environment : Environment) : List (Text × Option Text) → Except Fault Environment
  | [] => .ok []
  | (_, none) :: bindings => extend environment bindings
  | (name, some value) :: bindings =>
    if (Table.get? environment name).isSome then extend environment bindings
    else if '\x00' ∈ name ∨ '\x00' ∈ value then .error .nullCharacter
    else if '=' ∈ name then .error .illegalName
    else return (name, value) :: (← extend environment bindings)

/-- The environment with the variables of a file. -/
def apply (environment : Environment) (contents : Text) : Except Fault Environment := do
  let added ← extend environment (expand environment (ofContents contents))
  return environment ++ added

end ClassScope.EnvFile
