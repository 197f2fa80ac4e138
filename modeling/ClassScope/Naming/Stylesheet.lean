import ClassScope.Naming.Registry

/-!
# Stylesheets

In a stylesheet every point with a letter after it starts a class selector. Nothing tells where in
the sheet it stands, so what looks like a selector inside a comment or a `url(...)` counts too; a
decimal point does not, for a digit follows it.
-/

namespace ClassScope

/-! ## Identifiers -/

/-- A character of an identifier after the first one. -/
def isIdentifierChar (c : Char) : Bool := Text.isAsciiWord c || c == '-'

/-- The identifier at the front of a text and the text after it: a letter, then letters, digits, low
lines and hyphens, as many as there are. -/
def readIdentifier? : Text → Option (Text × Text)
  | [] => none
  | c :: s =>
    if Text.isAsciiLetter c then
      some (c :: s.takeWhile isIdentifierChar, s.dropWhile isIdentifierChar)
    else none

/-- An identifier that is read is the front of the text. -/
theorem eq_append_of_readIdentifier? {s name r : Text} (h : readIdentifier? s = some (name, r)) :
    s = name ++ r := by
  unfold readIdentifier? at h
  split at h
  · simp at h
  · split at h
    · simp only [Option.some.injEq, Prod.mk.injEq] at h
      obtain ⟨rfl, rfl⟩ := h
      simp
    · simp at h

namespace Stylesheet

/-- A class selector, given by its name. -/
def selector : Form Char Text where
  write name := '.' :: name
  read
    | _, '.' :: s => readIdentifier? s
    | _, _ => none
  sound := by
    intro before s name r h
    split at h
    · rw [eq_append_of_readIdentifier? h]
      simp
    · simp at h

/-- The stylesheet with every class selector in scope. -/
def rename (css : Text) : Naming Text :=
  selector.rename (fun name => do return '.' :: (← Registry.resolve name)) css

end Stylesheet

end ClassScope
