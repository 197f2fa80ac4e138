import ClassScope.Number.Shortest
import ClassScope.Table
import ClassScope.Text.Wide

/-!
# JSON values

JSON documents as values. Objects keep their members in the order they were written in. A number is
an integer of any size, or a binary floating-point number. Strings are wide, because an escape may
name half a pair of code units. The module also gives each value a kind, a truth and a text, for the
places where any value may stand for a flag or a name. Values can be compared.
-/

namespace ClassScope

/-- A JSON value. -/
inductive Json where
  /-- The value `null`. -/
  | null
  /-- A truth value. -/
  | bool (b : Bool)
  /-- A number without fraction and exponent. -/
  | int (n : Int)
  /-- A number with a fraction or an exponent, or a number that is not finite. -/
  | float (x : Binary64)
  /-- A string. -/
  | string (s : WideText)
  /-- An array. -/
  | array (items : List Json)
  /-- An object, as its members in order. -/
  | object (members : List (WideText × Json))

namespace Json

/-- The value of the member of an object, `null` where there is none. -/
def member (name : String) (members : List (WideText × Json)) : Json :=
  (Table.get? members (WideText.of name)).getD .null

/-- The string of a text. -/
def ofText (s : Text) : Json := .string (WideText.ofText s)

/-- The object with members of these names. -/
def ofMembers (members : List (Text × Json)) : Json :=
  .object (members.map fun (name, value) => (WideText.ofText name, value))

/-- Everything is true but `null`, `false`, zeros and what is empty. -/
def truthy : Json → Bool
  | .null => false
  | .bool b => b
  | .int n => n != 0
  | .float x => !x.isZero
  | .string s => !s.isEmpty
  | .array items => !items.isEmpty
  | .object members => !members.isEmpty

/-- The kinds of values. -/
inductive Kind where
  /-- The value `null`. -/
  | null
  /-- A truth value. -/
  | bool
  /-- An integer. -/
  | int
  /-- A floating-point number. -/
  | float
  /-- A string. -/
  | string
  /-- An array. -/
  | array
  /-- An object. -/
  | object
  deriving DecidableEq, Repr

/-- The word for a kind, for messages. -/
def Kind.word : Kind → String
  | .null => "NoneType"
  | .bool => "bool"
  | .int => "int"
  | .float => "float"
  | .string => "str"
  | .array => "list"
  | .object => "dict"

/-- The kind of a value. -/
def kind : Json → Kind
  | .null => .null
  | .bool _ => .bool
  | .int _ => .int
  | .float _ => .float
  | .string _ => .string
  | .array _ => .array
  | .object _ => .object

/-- The first of two values that is true, else the second. -/
def orElse (a b : Json) : Json := if a.truthy then a else b

/-- Numbers are written positionally from 0.0001 on and below 10^16. -/
def numberStyle : Binary64.DecimalStyle := ⟨-4, 16, 2⟩

/-- An integer in decimal digits. -/
def intText (n : Int) : Text :=
  (if n < 0 then ['-'] else []) ++ Nat.toDigits 10 n.natAbs

mutual

/-- The text of a value inside another one, where strings are quoted. -/
def innerText : Json → Text
  | .null => Text.of "None"
  | .bool true => Text.of "True"
  | .bool false => Text.of "False"
  | .int n => intText n
  | .float x => x.write numberStyle
  | .string s => s.quoted
  | .array items => ['['] ++ itemsText items ++ [']']
  | .object members => ['\x7b'] ++ membersText members ++ ['\x7d']

/-- The texts of the items of an array, separated by commas. -/
def itemsText : List Json → Text
  | [] => []
  | [v] => innerText v
  | v :: w :: items => innerText v ++ Text.of ", " ++ itemsText (w :: items)

/-- The texts of the members of an object, separated by commas. -/
def membersText : List (WideText × Json) → Text
  | [] => []
  | [(n, v)] => n.quoted ++ Text.of ": " ++ innerText v
  | (n, v) :: m :: members =>
    n.quoted ++ Text.of ": " ++ innerText v ++ Text.of ", " ++ membersText (m :: members)

end

/-- The text that stands for a value where a name is wanted: a string stands for itself. -/
def text : Json → WideText
  | .string s => s
  | v => WideText.ofText (innerText v)

instance : Repr Json := ⟨fun v _ => String.ofList (innerText v)⟩

/-! ## Comparison -/

mutual

/-- Whether two values are the same. -/
def decEq : (a b : Json) → Decidable (a = b)
  | .null, .null => isTrue rfl
  | .bool a, .bool b => decidable_of_iff (a = b) (by simp)
  | .int a, .int b => decidable_of_iff (a = b) (by simp)
  | .float a, .float b => decidable_of_iff (a = b) (by simp)
  | .string a, .string b => decidable_of_iff (a = b) (by simp)
  | .array a, .array b => @decidable_of_iff _ (a = b) (by simp) (decEqItems a b)
  | .object a, .object b => @decidable_of_iff _ (a = b) (by simp) (decEqMembers a b)
  | .null, .bool _ | .null, .int _ | .null, .float _ => isFalse nofun
  | .null, .string _ | .null, .array _ | .null, .object _ => isFalse nofun
  | .bool _, .null | .bool _, .int _ | .bool _, .float _ => isFalse nofun
  | .bool _, .string _ | .bool _, .array _ | .bool _, .object _ => isFalse nofun
  | .int _, .null | .int _, .bool _ | .int _, .float _ => isFalse nofun
  | .int _, .string _ | .int _, .array _ | .int _, .object _ => isFalse nofun
  | .float _, .null | .float _, .bool _ | .float _, .int _ => isFalse nofun
  | .float _, .string _ | .float _, .array _ | .float _, .object _ => isFalse nofun
  | .string _, .null | .string _, .bool _ | .string _, .int _ => isFalse nofun
  | .string _, .float _ | .string _, .array _ | .string _, .object _ => isFalse nofun
  | .array _, .null | .array _, .bool _ | .array _, .int _ => isFalse nofun
  | .array _, .float _ | .array _, .string _ | .array _, .object _ => isFalse nofun
  | .object _, .null | .object _, .bool _ | .object _, .int _ => isFalse nofun
  | .object _, .float _ | .object _, .string _ | .object _, .array _ => isFalse nofun

/-- Whether the items of two arrays are the same. -/
def decEqItems : (a b : List Json) → Decidable (a = b)
  | [], [] => isTrue rfl
  | [], _ :: _ => isFalse nofun
  | _ :: _, [] => isFalse nofun
  | v :: a, w :: b =>
    match decEq v w, decEqItems a b with
    | isTrue h, isTrue hs => isTrue (by rw [h, hs])
    | isFalse h, _ => isFalse (by simp [h])
    | _, isFalse hs => isFalse (by simp [hs])

/-- Whether the members of two objects are the same, in the same order. -/
def decEqMembers : (a b : List (WideText × Json)) → Decidable (a = b)
  | [], [] => isTrue rfl
  | [], _ :: _ => isFalse nofun
  | _ :: _, [] => isFalse nofun
  | (m, v) :: a, (n, w) :: b =>
    match decEq v w, decEqMembers a b with
    | isTrue h, isTrue hs => decidable_of_iff (m = n) (by simp [h, hs])
    | isFalse h, _ => isFalse (by simp [h])
    | _, isFalse hs => isFalse (by simp [hs])

end

instance : DecidableEq Json := decEq

end Json

end ClassScope
