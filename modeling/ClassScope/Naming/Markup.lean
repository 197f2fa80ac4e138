import ClassScope.Naming.Registry
import ClassScope.Text.Blank

/-!
# Markup

Class names occur in markup in double-quoted class attributes, any number of them in one value.
-/

namespace ClassScope.Markup

/-- The text of a class attribute with a value. -/
def writeClassAttribute (value : Text) : Text := Text.of "class=\"" ++ (value ++ ['\x22'])

/-- The class attribute at the front of a text, given by its value, which is not empty. -/
def readClassAttribute? (s : Text) : Option (Text × Text) :=
  match Text.after? (Text.of "class=\"") s with
  | none => none
  | some s =>
    let value := s.takeWhile (· ≠ '\x22')
    match s.dropWhile (· ≠ '\x22') with
    | [] => none
    | _ :: r => if value = [] then none else some (value, r)

/-- Class attributes, given by their values. -/
def classAttribute : Form Char Text where
  write := writeClassAttribute
  read _ := readClassAttribute?
  sound := by
    intro _ s value r h
    unfold readClassAttribute? at h
    split at h
    · simp at h
    · rename_i t ht
      simp only at h
      split at h
      · simp at h
      · rename_i c u hu
        split at h
        · simp at h
        · simp only [Option.some.injEq, Prod.mk.injEq] at h
          obtain ⟨rfl, rfl⟩ := h
          rw [Text.after?_eq_some_iff.1 ht]
          have hc := Text.dropWhile_ne_eq_cons hu
          subst hc
          refine ⟨?_, by simp [writeClassAttribute]⟩
          rw [writeClassAttribute, List.append_assoc, List.append_assoc, List.singleton_append,
            ← hu, List.takeWhile_append_dropWhile]

/-- The markup with the names in class attributes in scope, one space between neighbours. -/
def renameAttributes (html : Text) : Naming Text :=
  classAttribute.rename
    (fun value => do
      let names ← (Text.words value).mapM Registry.resolve
      return writeClassAttribute (Text.join [' '] names))
    html

end ClassScope.Markup
