import ClassScope.Text.Basic

/-!
# Forms

A form is a shape that stretches of text may have, such as a call with a quoted argument. It reads
an instance at the front of a text and writes an instance back, and what it reads is always exactly
what it writes: an instance has one written form. Looking for a form from left to right cuts a text
into instances that do not overlap and single characters between them, the pieces of the text. The
characters may be of any type.

Main statements: the pieces of a text, written one after the other, are the text again
(`write_pieces`), and the cut follows the form wherever it can be read (`pieces_of_read`,
`pieces_of_not_read`).
-/

namespace ClassScope

/-- A shape of texts of characters `σ`, whose instances are the values of `α`. -/
structure Form (σ α : Type) where
  /-- The text of an instance. -/
  write : α → List σ
  /-- The instance at the front of a text and the text after it. The first argument is the character
  in front of the text, if there is one. -/
  read : Option σ → List σ → Option (α × List σ)
  /-- What is read is the text of the instance, and it is not empty. -/
  sound : ∀ {before s a r}, read before s = some (a, r) → s = write a ++ r ∧ write a ≠ []

/-- A piece of a text with respect to a form. -/
inductive Piece (σ α : Type) where
  /-- A character outside all instances. -/
  | gap (c : σ)
  /-- An instance of the form. -/
  | hit (a : α)
  deriving DecidableEq, Repr

namespace Form

variable {σ α : Type} (form : Form σ α)

/-- Reading an instance shortens the text. -/
theorem length_lt_of_read {before : Option σ} {s r : List σ} {a : α}
    (h : form.read before s = some (a, r)) : r.length < s.length := by
  obtain ⟨rfl, ha⟩ := form.sound h
  have := List.length_pos_iff.2 ha
  simp only [List.length_append]
  omega

/-- The pieces of a text that stands after the character `before`. -/
def pieces (before : Option σ) : List σ → List (Piece σ α)
  | [] => []
  | c :: s =>
    match _h : form.read before (c :: s) with
    | some (a, r) => .hit a :: pieces (form.write a).getLast? r
    | none => .gap c :: pieces (some c) s
termination_by s => s.length
decreasing_by
  · exact form.length_lt_of_read _h
  · simp

/-- The text of a piece. -/
def writePiece : Piece σ α → List σ
  | .gap c => [c]
  | .hit a => form.write a

/-- The instances among some pieces, in order. -/
def hits : List (Piece σ α) → List α
  | [] => []
  | .gap _ :: ps => hits ps
  | .hit a :: ps => a :: hits ps

/-- The instances of the form in a text, from left to right. -/
def find (s : List σ) : List α := hits (form.pieces none s)

/-- The text with the instances of the form replaced. -/
def substitute (replace : α → List σ) (s : List σ) : List σ :=
  (form.pieces none s).flatMap fun
    | .gap c => [c]
    | .hit a => replace a

@[simp]
theorem pieces_nil (before : Option σ) : form.pieces before [] = [] := by
  rw [pieces]

/-- Where an instance can be read, it is the next piece. -/
theorem pieces_of_read {before : Option σ} {s r : List σ} {a : α}
    (h : form.read before s = some (a, r)) :
    form.pieces before s = .hit a :: form.pieces (form.write a).getLast? r := by
  cases s with
  | nil =>
    have := form.length_lt_of_read h
    simp at this
  | cons c s =>
    rw [pieces]
    split
    · rename_i a' r' h'
      rw [h] at h'
      cases h'
      rfl
    · rename_i h'
      rw [h] at h'
      cases h'

/-- Where no instance can be read, the next character is a piece of its own. -/
theorem pieces_of_not_read {before : Option σ} {c : σ} {s : List σ}
    (h : form.read before (c :: s) = none) :
    form.pieces before (c :: s) = .gap c :: form.pieces (some c) s := by
  rw [pieces]
  split
  · rename_i h'
    rw [h] at h'
    cases h'
  · rfl

/-- The pieces of a text make up the text. -/
theorem write_pieces (before : Option σ) (s : List σ) :
    (form.pieces before s).flatMap form.writePiece = s := by
  fun_induction form.pieces before s with
  | case1 => rfl
  | case2 before c s a r h ih =>
    rw [List.flatMap_cons, ih, (form.sound h).1, writePiece]
  | case3 before c s h ih =>
    rw [List.flatMap_cons, ih, writePiece, List.singleton_append]

end Form

end ClassScope
