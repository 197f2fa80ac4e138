import ClassScope.Proofs.Naming.Passes
import ClassScope.Proofs.Naming.Pieces
import ClassScope.Proofs.Text.Words

/-!
# The names in markup

A class attribute is cut at blanks into words, and each word is a name. Main statements:

- `Markup.readClassAttribute?_eq_some_iff`: what is read as a class attribute;
- `Markup.infix_of_mem_names`: every name stands in the markup;
- `Markup.attributesInScope_class`: an attribute with one class gets its name in the scope.
-/

namespace ClassScope

open Registry (fullName)

namespace Markup

variable {html name : Text}

theorem contextFree_classAttribute : classAttribute.ContextFree := fun _ _ => rfl

/-- Every name of some markup stands in it. -/
theorem infix_of_mem_names (h : name ∈ names html) : name <:+: html := by
  obtain ⟨value, hvalue, hname⟩ := List.mem_flatMap.1 h
  obtain ⟨u, v, rfl, -⟩ := Form.exists_of_mem_find contextFree_classAttribute hvalue
  refine (Text.infix_of_mem_words hname).trans ⟨u ++ Text.of "class=\"", '\x22' :: v, ?_⟩
  simp [classAttribute, writeClassAttribute]

/-- No character of a name is a blank. -/
theorem isBlank_of_isIdentifierChar {c : Char} (h : isIdentifierChar c = true) :
    Text.isBlank c = false := by
  -- The characters of names are printing characters of ASCII, and the only blank from the space to
  -- the tilde is the space.
  have hcode : 0x2d ≤ c.toNat ∧ c.toNat < 0x7f := by
    simp only [isIdentifierChar, Text.isAsciiWord, Text.isAsciiLetter, Text.isAsciiDigit,
      Bool.or_eq_true, Bool.and_eq_true, decide_eq_true_eq, beq_iff_eq, Char.le_def,
      UInt32.le_iff_toNat_le, Char.toNat_val] at h
    rcases h with (((⟨hmin, hmax⟩ | ⟨hmin, hmax⟩) | ⟨hmin, hmax⟩) | rfl) | rfl
    · change 97 ≤ c.toNat at hmin
      change c.toNat ≤ 122 at hmax
      omega
    · change 65 ≤ c.toNat at hmin
      change c.toNat ≤ 90 at hmax
      omega
    · change 48 ≤ c.toNat at hmin
      change c.toNat ≤ 57 at hmax
      omega
    · decide
    · decide
  simp only [Text.isBlank, Bool.or_eq_false_iff, Bool.and_eq_false_iff, decide_eq_false_iff_not,
    beq_eq_false_iff_ne]
  omega

/-- What is read is an attribute with a value that is not empty and has no double quote. -/
theorem readClassAttribute?_eq_some_iff {s r value : Text} :
    readClassAttribute? s = some (value, r) ↔
      s = writeClassAttribute value ++ r ∧ '\x22' ∉ value ∧ value ≠ [] := by
  constructor
  · intro h
    have hread : classAttribute.read none s = some (value, r) := h
    refine ⟨(classAttribute.sound hread).1, ?_⟩
    unfold readClassAttribute? at h
    split at h
    · cases h
    · rename_i t ht
      simp only at h
      split at h
      · cases h
      · split at h
        · cases h
        · rename_i hne
          cases h
          refine ⟨fun hmem => ?_, hne⟩
          have := List.all_eq_true.1 (List.all_takeWhile (p := (· ≠ '\x22'))) _ hmem
          simp at this
  · rintro ⟨rfl, hquote, hne⟩
    have hvalue : ∀ c ∈ value, decide (c ≠ '\x22') = true := by
      intro c hc
      rw [decide_eq_true_eq]
      rintro rfl
      exact hquote hc
    unfold readClassAttribute? writeClassAttribute
    simp only [List.append_assoc, Text.after?_append, List.takeWhile_append_of_pos hvalue,
      List.dropWhile_append_of_pos hvalue]
    simp [hne]

/-- A class attribute with one class, of identifier characters only. -/
theorem read_classAttribute (hname : name ≠ []) (hchars : ∀ c ∈ name, isIdentifierChar c = true) :
    classAttribute.read none (writeClassAttribute name) = some (name, []) := by
  have hquote : '\x22' ∉ name := fun hmem => absurd (hchars _ hmem) (by decide)
  exact readClassAttribute?_eq_some_iff.2 ⟨(List.append_nil _).symm, hquote, hname⟩

/-- An attribute with one class gets its name in the scope. -/
theorem attributesInScope_class {scope : Setting} (hname : name ≠ [])
    (hchars : ∀ c ∈ name, isIdentifierChar c = true) :
    attributesInScope scope (writeClassAttribute name) =
      writeClassAttribute (fullName scope name) := by
  rw [attributesInScope, Form.substitute_of_read contextFree_classAttribute
    (read_classAttribute hname hchars), Form.substitute_nil, List.append_nil,
    Text.words_of_no_blank hname fun c hc => isBlank_of_isIdentifierChar (hchars c hc)]
  rfl

end Markup

end ClassScope
