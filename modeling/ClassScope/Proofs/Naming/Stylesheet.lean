import ClassScope.Proofs.Naming.Passes
import ClassScope.Proofs.Naming.Pieces
import ClassScope.Proofs.Naming.Quotes

/-!
# The names in stylesheets

A point with an identifier after it is a selector, and a selector is put in the scope. Main
statements:

- `Stylesheet.infix_of_mem_find`: every name stands in the stylesheet;
- `Stylesheet.inScope_rule`, `Stylesheet.inScope_rule_of_not_identifier`: what becomes of a rule for
  a class.
-/

namespace ClassScope.Stylesheet

open Registry (fullName)

variable {scope : Setting} {css name : Text}

theorem read_selector_cons (before : Option Char) (c : Char) (s : Text) :
    selector.read before (c :: s) = if c = '.' then readIdentifier? s else none := by
  by_cases hc : c = '.'
  · subst hc
    rfl
  · rw [if_neg hc]
    simp [selector, hc]

theorem contextFree_selector : selector.ContextFree := by
  intro before s
  cases s with
  | nil => rfl
  | cons c s => rw [read_selector_cons, read_selector_cons]

/-- Every name of a stylesheet stands in it. -/
theorem infix_of_mem_find (h : name ∈ selector.find css) : name <:+: css := by
  obtain ⟨u, v, rfl, -⟩ := Form.exists_of_mem_find contextFree_selector h
  exact ⟨u ++ ['.'], v, by simp [selector]⟩

/-- A stylesheet without points is kept. -/
theorem inScope_of_no_point (h : '.' ∉ css) : inScope scope css = css := by
  refine Form.substitute_eq_self contextFree_selector fun name hname => ?_
  obtain ⟨u, v, rfl, -⟩ := Form.exists_of_mem_find contextFree_selector hname
  exact absurd (by simp [selector]) h

/-- A rule for a class, with nothing in it. -/
def rule (name : Text) : Text := '.' :: (name ++ ['{', '}'])

/-- A rule for an identifier gets its name in the scope. -/
theorem inScope_rule (hname : IsIdentifier name) :
    inScope scope (rule name) = rule (fullName scope name) := by
  have hread : selector.read none (rule name) = some (name, ['{', '}']) := by
    rw [rule, read_selector_cons, if_pos rfl]
    exact readIdentifier?_eq_some_iff.2 ⟨hname, rfl, by simp [isIdentifierChar]; decide⟩
  rw [inScope, Form.substitute_of_read contextFree_selector hread]
  exact congrArg (('.' :: fullName scope name) ++ ·) (inScope_of_no_point (by decide))

/-- A rule for a class whose name is no identifier is kept. -/
theorem inScope_rule_of_not_identifier (hchars : ∀ c ∈ name, isIdentifierChar c = true)
    (hname : ¬ IsIdentifier name) : inScope scope (rule name) = rule name := by
  -- The name does not start with a letter.
  have hnone : readIdentifier? (name ++ ['{', '}']) = none := by
    cases name with
    | nil => decide
    | cons c s =>
      rw [List.cons_append, readIdentifier?, if_neg]
      exact fun letter => hname (.intro letter fun d hd => hchars d (List.mem_cons_of_mem c hd))
  have hread : selector.read none (rule name) = none := by
    rw [rule, read_selector_cons, if_pos rfl, hnone]
  have hpoint : '.' ∉ name ++ ['{', '}'] := by
    intro hmem
    rcases List.mem_append.1 hmem with hmem | hmem
    · exact absurd (hchars '.' hmem) (by decide)
    · revert hmem
      decide
  rw [rule, inScope, Form.substitute_of_not_read contextFree_selector hread]
  exact congrArg ('.' :: ·) (inScope_of_no_point hpoint)

end ClassScope.Stylesheet
