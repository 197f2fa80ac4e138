import ClassScope.Text.Basic

/-!
# Line ends

Text that is read from a file has one kind of line end: a carriage return, with or without a line
feed after it, becomes a line feed.
-/

namespace ClassScope.Text

/-- The text with every line end written as a line feed. -/
def unifyLineEnds : Text → Text
  | [] => []
  | '\r' :: '\n' :: s => '\n' :: unifyLineEnds s
  | c :: s => (if c = '\r' then '\n' else c) :: unifyLineEnds s

/-- What stands before the first line feed. -/
def line (s : Text) : Text := s.takeWhile (· ≠ '\n')

/-- What stands after the first line feed. -/
def afterLine (s : Text) : Text := (s.dropWhile (· ≠ '\n')).drop 1

/-- A text without carriage returns is left as it is. -/
theorem unifyLineEnds_eq_self {s : Text} (h : '\r' ∉ s) : unifyLineEnds s = s := by
  induction s with
  | nil => rfl
  | cons c s ih =>
    simp only [List.mem_cons, not_or] at h
    rw [unifyLineEnds]
    · rw [if_neg (Ne.symm h.1), ih h.2]
    · rintro r rfl
      exact absurd rfl h.1

end ClassScope.Text
