import ClassScope.Proofs.Naming.Quotes
import ClassScope.Text.Blank

/-!
# Blanks around a text

What stripping a text and cutting it do. Main statements:

- `Text.exists_eq_append_strip`, `Text.strip_append`: a text that is stripped;
- `Text.flatten_splitBy`: cutting a text loses only the characters it is cut at.
-/

namespace ClassScope.Text

variable {s before after : Text}

/-- The text is whitespace only. -/
def Blank (s : Text) : Prop := ∀ c ∈ s, isBlank c = true

instance (s : Text) : Decidable s.Blank :=
  decidable_of_iff (s.all isBlank = true) List.all_eq_true

/-- A blank is no quote. -/
theorem isQuote_of_isBlank {c : Char} (h : isBlank c = true) : isQuote c = false := by
  by_contra hquote
  simp only [Bool.not_eq_false, isQuote, Bool.or_eq_true, beq_iff_eq] at hquote
  rcases hquote with (rfl | rfl) | rfl <;> revert h <;> decide

theorem Blank.unquoted (h : s.Blank) : s.Unquoted := fun c hc => isQuote_of_isBlank (h c hc)

/-- A text is what is left of it when it is stripped, between blanks. -/
theorem exists_eq_append_strip (s : Text) :
    ∃ before after, s = before ++ (strip s ++ after) ∧ before.Blank ∧ after.Blank := by
  refine ⟨s.takeWhile isBlank, ((stripLeft s).reverse.takeWhile isBlank).reverse, ?_, ?_, ?_⟩
  · rw [strip, stripRight, ← List.reverse_append, List.takeWhile_append_dropWhile,
      List.reverse_reverse, stripLeft, List.takeWhile_append_dropWhile]
  · exact fun c hc => List.all_eq_true.1 List.all_takeWhile c hc
  · exact fun c hc => List.all_eq_true.1 List.all_takeWhile c (List.mem_reverse.1 hc)

/-- Stripping takes the blanks away, as far as a text that has none at its ends. -/
theorem strip_append (hbefore : before.Blank) (hafter : after.Blank) (hne : s ≠ [])
    (hfirst : ∀ c ∈ s.head?, isBlank c = false) (hlast : ∀ c ∈ s.getLast?, isBlank c = false) :
    strip (before ++ (s ++ after)) = s := by
  have hdrop : ∀ t r : Text, r ≠ [] → (∀ c ∈ r.head?, isBlank c = false) →
      (r ++ t).dropWhile isBlank = r ++ t := by
    intro t r hne hfirst
    obtain ⟨c, r, rfl⟩ := List.exists_cons_of_ne_nil hne
    rw [List.cons_append, List.dropWhile_cons_of_neg]
    simp [hfirst c rfl]
  have hreverse : ∀ c ∈ s.reverse.head?, isBlank c = false := by
    rwa [List.head?_reverse]
  rw [strip, stripLeft, List.dropWhile_append_of_pos hbefore, hdrop after s hne hfirst, stripRight,
    List.reverse_append, List.dropWhile_append_of_pos fun c hc => hafter c (List.mem_reverse.1 hc),
    ← List.append_nil s.reverse, hdrop [] s.reverse (by simpa using hne) hreverse, List.append_nil,
    List.reverse_reverse]

/-- Cutting a text loses the characters it is cut at. -/
theorem flatten_splitBy (p : Char → Bool) (s : Text) :
    (splitBy p s).flatten = s.filter (!p ·) := by
  induction s with
  | nil => rfl
  | cons c s ih =>
    rw [splitBy]
    split
    · rename_i hc
      rw [List.flatten_cons, List.nil_append, ih, List.filter_cons_of_neg (by simp [hc])]
    · rename_i hc
      rw [List.filter_cons_of_pos (by simp [hc]), ← ih]
      split
      · rename_i hnil
        rw [hnil]
        rfl
      · rename_i hcons
        rw [hcons]
        rfl

end ClassScope.Text
