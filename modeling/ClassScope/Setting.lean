import ClassScope.Json.Printer

/-!
# The value of a setting

A setting should be a text. Who gives it may give another value all the same: a host passes any
value on, and an option of the command line may be left without a value. Another value goes a long
way, since it has a truth and a text of its own; only in some places it is an error.
-/

namespace ClassScope

/-- The value of a setting. -/
inductive Setting where
  /-- A text. -/
  | text (s : Text)
  /-- A value that is no string. -/
  | other (value : Json)
  deriving DecidableEq, Repr

namespace Setting

/-- The setting that is a truth value. -/
def flag (b : Bool) : Setting := .other (.bool b)

/-- The setting of an option that is left without a value. -/
def noValue : Setting := .other (.array [])

/-- The setting as a value. -/
def json : Setting → Json
  | .text s => .ofText s
  | .other value => value

/-- The setting is true: it is neither empty nor a zero. -/
def isTrue : Setting → Bool
  | .text s => !s.isEmpty
  | .other value => value.truthy

/-- The text that stands for the setting. -/
def asText : Setting → Text
  | .text s => s
  | .other value => value.innerText

/-- The setting in a message, where a text stands between quotes. -/
def quoted : Setting → Text
  | .text s => Text.quoted s
  | .other value => value.innerText

/-- The setting as a literal of printable ASCII. -/
def literal : Setting → Text
  | .text s => Json.asciiLiteral s
  | .other value => value.asciiPrint

/-- The text that the setting is, if it is one. -/
def text? : Setting → Option Text
  | .text s => some s
  | .other _ => none

/-! ## Where only a text will do -/

/-- The uses that only a text can be put to. -/
inductive Use where
  /-- The path of a build directory. -/
  | root
  /-- The path of a document, seen from a build directory. -/
  | document
  /-- The scope that class names should be in. -/
  | front
  /-- The marker of the preview image. -/
  | marker
  /-- The address of the preview image. -/
  | address
  deriving DecidableEq, Repr

/-- A value of some kind was put to a use where only a text will do. -/
structure Misuse where
  /-- The use. -/
  use : Use
  /-- The kind of the value. -/
  kind : Json.Kind
  deriving DecidableEq, Repr

/-- The wording of a misuse. -/
def Misuse.message (e : Misuse) : String :=
  let kind := e.kind.word
  match e.use with
  | .root => "expected str, bytes or os.PathLike object, not " ++ kind
  | .document => "unsupported operand type(s) for /: 'PosixPath' and '" ++ kind ++ "'"
  | .front => "startswith first arg must be str or a tuple of str, not " ++ kind
  | .marker => "'in <string>' requires string as left operand, not " ++ kind
  | .address => "decoding to str: need a bytes-like object, " ++ kind ++ " found"

/-- The text that the setting is, for a use where nothing else will do. -/
def demand (use : Use) : Setting → Except Misuse Text
  | .text s => .ok s
  | .other value => .error ⟨use, value.kind⟩

end Setting

end ClassScope
