/-!
# Texts

A text is the list of its characters. The passes of this library look at a text one character at a
time, so the list form is the one they are defined on; strings appear only where text enters or
leaves the program. This module holds the ASCII character classes and the operations on texts that
need no others.
-/

namespace ClassScope

/-- A text, as the list of its characters. -/
abbrev Text := List Char

namespace Text

/-- The characters of a string. A proof does not look inside the texts that a program names in this
way, unless it asks for it. -/
@[irreducible]
def of (s : String) : Text := s.toList

/-- A named text has the characters of its string. -/
theorem of_eq_toList (s : String) : of s = s.toList := by
  unfold of
  rfl

/-- Named texts are the same for the same string only. -/
theorem of_inj {s t : String} : of s = of t ↔ s = t := by
  rw [of_eq_toList, of_eq_toList, String.toList_inj]

/-! ## Character classes -/

/-- A letter from `a` to `z` in either case. -/
def isAsciiLetter (c : Char) : Bool :=
  ('a' ≤ c && c ≤ 'z') || ('A' ≤ c && c ≤ 'Z')

/-- A digit from `0` to `9`. -/
def isAsciiDigit (c : Char) : Bool := '0' ≤ c && c ≤ '9'

/-- An ASCII letter, an ASCII digit or the low line. -/
def isAsciiWord (c : Char) : Bool := isAsciiLetter c || isAsciiDigit c || c == '_'

/-- A single quote, a double quote or a backtick. -/
def isQuote (c : Char) : Bool := c == '\x27' || c == '\x22' || c == '\x60'

/-- The code point of the character lies in one of the closed ranges. -/
def covers (ranges : List (Nat × Nat)) (c : Char) : Bool :=
  ranges.any fun range => range.1 ≤ c.toNat && c.toNat ≤ range.2

/-! ## Reading from the front

These operations look at nothing but the equality of the items, so they are there for texts of any
kind of item. -/

section Front

variable {σ : Type} [DecidableEq σ]

/-- What follows `head` in a text that starts with it. -/
def after? : (head s : List σ) → Option (List σ)
  | [], s => some s
  | _ :: _, [] => none
  | h :: head, c :: s => if h = c then after? head s else none

/-- A text has something after `head` exactly when it is `head` and that. -/
theorem after?_eq_some_iff {head s r : List σ} : after? head s = some r ↔ s = head ++ r := by
  induction head generalizing s with
  | nil => simp [after?]
  | cons h head ih =>
    cases s with
    | nil => simp [after?]
    | cons c s =>
      by_cases hc : h = c
      · subst hc
        simp [after?, ih]
      · simp only [after?, hc, if_false, List.cons_append, List.cons.injEq]
        simp [Ne.symm hc]

/-- The text after `head` is found behind it. -/
@[simp]
theorem after?_append (head r : List σ) : after? head (head ++ r) = some r :=
  after?_eq_some_iff.2 rfl

/-- The text starts with `head`. -/
def startsWith (head s : List σ) : Bool := (after? head s).isSome

/-- The text ends with `tail`. -/
def endsWith (tail s : List σ) : Bool := startsWith tail.reverse s.reverse

/-- `part` stands somewhere in the text. -/
def occurs (part : List σ) : List σ → Bool
  | [] => part.isEmpty
  | c :: s => startsWith part (c :: s) || occurs part s

/-- A text starts with what is a prefix of it. -/
theorem startsWith_iff {head s : List σ} : startsWith head s = true ↔ head <+: s := by
  rw [startsWith, Option.isSome_iff_exists]
  exact exists_congr fun r => after?_eq_some_iff.trans eq_comm

/-- What stands somewhere in a text is an infix of it. -/
theorem occurs_iff {part s : List σ} : occurs part s = true ↔ part <:+: s := by
  induction s with
  | nil => simp [occurs]
  | cons c s ih => rw [occurs, Bool.or_eq_true, startsWith_iff, ih, List.infix_cons_iff]

/-- A text ends with what is a suffix of it. -/
theorem endsWith_iff {tail s : List σ} : endsWith tail s = true ↔ tail <:+ s := by
  rw [endsWith, startsWith_iff, List.reverse_prefix]

/-- What follows a stretch without an item starts with that item. -/
theorem dropWhile_ne_eq_cons {q c : σ} {s r : List σ} (h : s.dropWhile (· ≠ q) = c :: r) :
    c = q := by
  have := List.head?_dropWhile_not (· ≠ q) s
  rw [h] at this
  simpa using this

end Front

/-! ## Splitting and joining -/

/-- The stretches between the characters that `p` accepts; there is one more than these. -/
def splitBy (p : Char → Bool) : Text → List Text
  | [] => [[]]
  | c :: s =>
    if p c then [] :: splitBy p s
    else
      match splitBy p s with
      | [] => [[c]]
      | w :: ws => (c :: w) :: ws

/-- The texts one after the other, with `between` between neighbours. -/
def join (between : Text) : List Text → Text
  | [] => []
  | [w] => w
  | w :: v :: ws => w ++ between ++ join between (v :: ws)

/-- A character that does not stand between them comes from one of the texts that are joined. -/
theorem mem_join {between : Text} {c : Char} (h : c ∉ between) {ws : List Text} :
    c ∈ join between ws ↔ ∃ w ∈ ws, c ∈ w := by
  induction ws with
  | nil => simp [join]
  | cons w ws ih =>
    cases ws with
    | nil => simp [join]
    | cons v ws =>
      rw [join, List.mem_append, List.mem_append, ih]
      simp [h]

end Text

end ClassScope
