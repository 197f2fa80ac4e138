import ClassScope.Proofs.Naming.Composition
import ClassScope.Proofs.Naming.Insertion

/-!
# Taking the scope out again

The pass over a stylesheet and the pass over selector literals lose nothing: what they make of a
text tells what the text was. The scope is taken out by a scan of the same kind, which has to stay
in step with the first one. In a stylesheet it does so for every scope that starts with a letter,
since then a point has a letter behind it after the pass exactly if it had one before, and the scan
jumps over the scope, whatever stands in it. In a script the scope has to be an identifier, for a
literal in the scope has to be a literal again. Main statements:

- `Stylesheet.remove_insert`, `Script.removeFromSelectors_selectorsInScope`: the two inverses;
- `renamed_leftInverse`: the two passes as they run have left inverses, so they are injective.
-/

namespace ClassScope

open Registry (fullName)

/-- The text without `front`, if it starts with that. -/
def Text.withoutFront (front s : Text) : Text := (Text.after? front s).getD s

@[simp]
theorem Text.withoutFront_append (front s : Text) : Text.withoutFront front (front ++ s) = s := by
  rw [withoutFront, after?_append, Option.getD_some]

theorem Text.withoutFront_suffix (front s : Text) : Text.withoutFront front s <:+ s := by
  unfold withoutFront
  cases h : after? front s with
  | none => exact List.suffix_refl s
  | some r =>
    rw [after?_eq_some_iff.1 h]
    exact List.suffix_append front r

namespace Stylesheet

variable {scope : Text}

/-- The stylesheet without the scope behind every point with a letter behind it, in one go from left
to right: what stands behind the scope is looked at next. -/
def remove (scope : Text) : Text → Text
  | [] => []
  | c :: s =>
    if startsName c s then c :: remove scope (Text.withoutFront scope s) else c :: remove scope s
termination_by s => s.length
decreasing_by
  · exact Nat.lt_succ_of_le (Text.withoutFront_suffix scope s).length_le
  · exact Nat.lt_succ_self _

/-- A scope that starts with a letter is taken out wherever it was put in, and nowhere else. -/
theorem remove_insert (hscope : scope.head?.any Text.isAsciiLetter = true) (css : Text) :
    remove scope (insert scope css) = css := by
  induction css with
  | nil => rw [insert, remove]
  | cons c s ih =>
    rw [insert]
    by_cases hstarts : startsName c s = true
    · -- Now the letter behind the point is the first one of the scope.
      have hpoint : (c == '.') = true := (Bool.and_eq_true_iff.1 hstarts).1
      obtain ⟨d, rest, rfl⟩ : ∃ d rest, scope = d :: rest := by
        cases scope with
        | nil => simp at hscope
        | cons d rest => exact ⟨d, rest, rfl⟩
      have hafter : startsName c ((d :: rest) ++ insert (d :: rest) s) = true := by
        simpa [startsName, hpoint] using hscope
      rw [if_pos hstarts, remove, if_pos hafter, Text.withoutFront_append, ih]
    · have hafter : ¬ startsName c (insert scope s) = true := by
        rwa [startsName_congr (head?_insert scope s)]
      rw [if_neg hstarts, List.nil_append, remove, if_neg hafter, ih]

end Stylesheet

namespace Script

variable {scope : Text}

/-- A selector literal without the scope in front of its name. -/
def SelectorLiteral.withoutScope (scope : Text) (l : SelectorLiteral) : SelectorLiteral :=
  ⟨l.quote, Text.withoutFront scope l.name⟩

/-- The script without the scope in front of the names in its selector literals. -/
def removeFromSelectors (scope code : Text) : Text :=
  selectorLiteral.substitute (fun l => (l.withoutScope scope).write) code

theorem SelectorLiteral.withoutScope_inScope (scope : Text) (l : SelectorLiteral) :
    (l.inScope (.text scope)).withoutScope scope = l := by
  rw [withoutScope, inScope, fullName, Setting.asText, Text.withoutFront_append]

/-- A scope that is an identifier is taken out of the literals that it was put in. -/
theorem removeFromSelectors_selectorsInScope (hscope : IsIdentifier scope) (code : Text) :
    removeFromSelectors scope (selectorsInScope (.text scope) code) = code := by
  have hkept : selectorLiteral.substitute SelectorLiteral.write code = code :=
    Form.substitute_eq_self contextFree_selectorLiteral fun _ _ => rfl
  refine Eq.trans ?_ hkept
  refine Form.substitute_substitute contextFree_selectorLiteral (fun {code l r} hread => ?_)
    read_cons_selectorsInScope code
  -- The scan meets the literal in the scope where the pass has met the literal.
  refine (Form.substitute_of_read contextFree_selectorLiteral
    (SelectorLiteral.read_inScope hscope hread _)).trans ?_
  rw [SelectorLiteral.withoutScope_inScope]

end Script

/-- With a scope that starts with a letter the pass over a stylesheet is undone by taking the scope
out behind every point with a letter behind it; with a scope that is an identifier the pass over
selector literals is undone by taking it out of every literal. So no two texts become the same. -/
theorem renamed_leftInverse :
    (∀ scope : Text, scope.head?.any Text.isAsciiLetter = true →
      Function.LeftInverse (Stylesheet.remove scope) (renamed Stylesheet.rename scope) ∧
        Function.Injective (renamed Stylesheet.rename scope)) ∧
      ∀ scope : Text, IsIdentifier scope →
        Function.LeftInverse (Script.removeFromSelectors scope)
            (renamed Script.renameSelectors scope) ∧
          Function.Injective (renamed Script.renameSelectors scope) := by
  constructor
  · intro scope hscope
    have h : Function.LeftInverse (Stylesheet.remove scope) (renamed Stylesheet.rename scope) := by
      intro css
      rw [(Stylesheet.looksUp_rename (.text scope) css).renamed_eq, Stylesheet.inScope_eq_insert]
      exact Stylesheet.remove_insert hscope css
    exact ⟨h, h.injective⟩
  · intro scope hscope
    have h : Function.LeftInverse (Script.removeFromSelectors scope)
        (renamed Script.renameSelectors scope) := by
      intro code
      rw [(Script.looksUp_renameSelectors (.text scope) code).renamed_eq]
      exact Script.removeFromSelectors_selectorsInScope hscope code
    exact ⟨h, h.injective⟩

/-- The scope of a stylesheet may hold points with letters behind them, and literals may share a
quote. -/
theorem renamed_leftInverse_shared_quote :
    (Text.of "a.b").head?.any Text.isAsciiLetter = true ∧ IsIdentifier (Text.of "p-") ∧
      renamed Stylesheet.rename (Text.of "a.b") (Text.of "..x.5.y") = Text.of "..a.bx.5.a.by" ∧
      Stylesheet.remove (Text.of "a.b")
          (renamed Stylesheet.rename (Text.of "a.b") (Text.of "..x.5.y")) = Text.of "..x.5.y" ∧
      renamed Script.renameSelectors (Text.of "p-") (Text.of "'.x'.p-y'") =
        Text.of "'.p-x'.p-y'" ∧
      Script.removeFromSelectors (Text.of "p-")
          (renamed Script.renameSelectors (Text.of "p-") (Text.of "'.x'.p-y'")) =
        Text.of "'.x'.p-y'" := by
  have hletter : (Text.of "a.b").head?.any Text.isAsciiLetter = true := by decide +kernel
  have hidentifier : IsIdentifier (Text.of "p-") := by decide +kernel
  exact ⟨hletter, hidentifier, by decide +kernel,
    (renamed_leftInverse.1 _ hletter).1 (Text.of "..x.5.y"), by decide +kernel,
    (renamed_leftInverse.2 _ hidentifier).1 (Text.of "'.x'.p-y'")⟩

end ClassScope
