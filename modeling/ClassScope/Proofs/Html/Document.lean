import ClassScope.Html.Reader

/-!
# Plain documents

Trees of elements and texts as they are written by hand: names in lower-case letters, values in
double quotes, a closing tag for every element, and nothing in a text or in a value that means
something to markup. A document is written one part after the other, and what is proved about the
text of a document is proved about its parts.
-/

namespace ClassScope.Html

/-- A character that means nothing to markup in a text or in a value. -/
def isPlainChar (c : Char) : Bool := c ∉ ['\x22', '&', '<', '>', '=']

/-- No character of the text means anything to markup. -/
def Plain (s : Text) : Prop := ∀ c ∈ s, isPlainChar c = true

instance (s : Text) : Decidable (Plain s) :=
  decidable_of_iff (s.all isPlainChar = true) List.all_eq_true

/-- A letter from `a` to `z`. -/
def isLowerLetter (c : Char) : Bool := 'a' ≤ c && c ≤ 'z'

/-- A letter from `a` to `z` or a hyphen. -/
def isNameChar (c : Char) : Bool := isLowerLetter c || c == '-'

/-- An attribute with its value. -/
structure PlainAttribute where
  /-- The name. -/
  name : Text
  /-- The value. -/
  value : Text
  /-- The name is not empty. -/
  name_ne_nil : name ≠ [] := by decide +kernel
  /-- It is made of letters and hyphens. -/
  name_chars : name.all isNameChar = true := by decide +kernel
  /-- The value means nothing to markup. -/
  value_plain : Plain value := by decide +kernel

/-- The name and the attributes of an element. -/
structure PlainTag where
  /-- The name. -/
  name : Text
  /-- The attributes in order. -/
  attributes : List PlainAttribute
  /-- The name is not empty. -/
  name_ne_nil : name ≠ [] := by decide +kernel
  /-- It is made of letters. -/
  name_chars : name.all isLowerLetter = true := by decide +kernel
  /-- The content of the element is markup. -/
  name_not_raw : name ∉ rawNames := by decide +kernel

/-- A tree of elements and texts. -/
inductive Tree where
  /-- A text that means nothing to markup. -/
  | text (s : Text) (plain : Plain s := by decide +kernel)
  /-- An element with its content. -/
  | element (tag : PlainTag) (content : List Tree)

/-! ## Writing -/

/-- A part of the text of a document. -/
inductive Part where
  /-- A text. -/
  | text (s : Text) (plain : Plain s)
  /-- The start of an element. -/
  | opening (tag : PlainTag)
  /-- The end of an element. -/
  | closing (tag : PlainTag)

mutual

/-- The parts of a tree in order. -/
def Tree.parts : Tree → List Part
  | .text s plain => [.text s plain]
  | .element tag content => .opening tag :: (partsOf content ++ [.closing tag])

/-- The parts of some trees in order. -/
def partsOf : List Tree → List Part
  | [] => []
  | tree :: trees => tree.parts ++ partsOf trees

end

/-- The text of an attribute, with the space in front of it. -/
def PlainAttribute.write (a : PlainAttribute) : Text :=
  ' ' :: (a.name ++ '=' :: '\x22' :: (a.value ++ ['\x22']))

/-- The text of a part. -/
def Part.write : Part → Text
  | .text s _ => s
  | .opening tag => '<' :: (tag.name ++ (tag.attributes.flatMap PlainAttribute.write ++ ['>']))
  | .closing tag => '<' :: '/' :: (tag.name ++ ['>'])

/-- The text of some trees. -/
def writeTrees (trees : List Tree) : Text := (partsOf trees).flatMap Part.write

theorem PlainAttribute.write_append (a : PlainAttribute) (s : Text) :
    a.write ++ s = ' ' :: (a.name ++ '=' :: '\x22' :: (a.value ++ '\x22' :: s)) := by
  simp [write]

/-! ## The characters of names and values -/

theorem PlainAttribute.not_mem_value (a : PlainAttribute) {c : Char} (hc : isPlainChar c = false) :
    c ∉ a.value := by
  intro hmem
  rw [a.value_plain c hmem] at hc
  cases hc

theorem PlainAttribute.isNameChar_of_mem (a : PlainAttribute) {c : Char} (hc : c ∈ a.name) :
    isNameChar c = true :=
  List.all_eq_true.1 a.name_chars c hc

theorem PlainTag.isLowerLetter_of_mem (tag : PlainTag) {c : Char} (hc : c ∈ tag.name) :
    isLowerLetter c = true :=
  List.all_eq_true.1 tag.name_chars c hc

theorem isNameChar_of_isLowerLetter {c : Char} (h : isLowerLetter c = true) :
    isNameChar c = true := by
  rw [isNameChar, h, Bool.true_or]

theorem lt_of_isNameChar {c : Char} (h : isNameChar c = true) : c.toNat < 0x80 := by
  simp only [isNameChar, isLowerLetter, Bool.or_eq_true, Bool.and_eq_true, decide_eq_true_eq,
    beq_iff_eq, Char.le_def, UInt32.le_iff_toNat_le, Char.toNat_val] at h
  rcases h with ⟨-, hmax⟩ | rfl
  · change c.toNat ≤ 122 at hmax
    omega
  · decide

/-- A letter or a hyphen belongs to a name, ends none, and is a lower-case character. -/
theorem isNameChar_facts {c : Char} (h : isNameChar c = true) :
    isAttributeNameChar c = true ∧ isTagNameChar c = true ∧ isClosingNameChar c = true ∧
      endsName c = false ∧ isPlainChar c = true ∧ c.toLower = c := by
  have hascii : ∀ n < 0x80, isNameChar (Char.ofNat n) = true →
      isAttributeNameChar (Char.ofNat n) = true ∧ isTagNameChar (Char.ofNat n) = true ∧
        isClosingNameChar (Char.ofNat n) = true ∧ endsName (Char.ofNat n) = false ∧
        isPlainChar (Char.ofNat n) = true ∧ (Char.ofNat n).toLower = Char.ofNat n := by
    decide +kernel
  have hc := hascii c.toNat (lt_of_isNameChar h)
  rw [Char.ofNat_toNat] at hc
  exact hc h

theorem isAsciiLetter_of_isLowerLetter {c : Char} (h : isLowerLetter c = true) :
    Text.isAsciiLetter c = true := by
  rw [isLowerLetter] at h
  rw [Text.isAsciiLetter, h, Bool.true_or]

end ClassScope.Html
