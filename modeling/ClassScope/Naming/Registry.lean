import ClassScope.Naming.Form
import ClassScope.Setting

/-!
# Names in scope

A registry gives every class name the same full name for a whole build: the scope, a text of its
own, followed by the name. The first lookup of a name enters it, so the order of the entries is the
order of the first lookups. Renaming passes look names up as they go; they are actions on a
registry.
-/

namespace ClassScope

/-- The class names met so far with the names they are replaced by. -/
structure Registry where
  /-- What is put in front of every name. -/
  scope : Setting
  /-- The names with their full names, in the order of their first lookups. -/
  entries : List (Text × Text)
  deriving DecidableEq, Repr

/-- A step that looks names up. -/
abbrev Naming (α : Type) := StateM Registry α

namespace Registry

/-- The registry of a scope before any lookup. -/
def empty (scope : Setting) : Registry := ⟨scope, []⟩

/-- The full name of a name that has been entered. -/
def get? (registry : Registry) (name : Text) : Option Text := Table.get? registry.entries name

/-- The name has been entered. -/
def contains (registry : Registry) (name : Text) : Bool := (registry.get? name).isSome

/-- The number of names. -/
def size (registry : Registry) : Nat := registry.entries.length

/-- The full name of a name; a name that is new is entered. -/
def resolve (name : Text) : Naming Text := fun registry =>
  match registry.get? name with
  | some full => (full, registry)
  | none =>
    let full := registry.scope.asText ++ name
    (full, { registry with entries := registry.entries ++ [(name, full)] })

/-- The registry in one line, for messages. -/
def describe (registry : Registry) : Text :=
  Text.of "<IdentifierRegistry prefix=" ++ registry.scope.quoted ++
    Text.of " size=" ++ Nat.toDigits 10 registry.size ++ ['>']

end Registry

/-- Replaces the instances of a form in a text, from left to right, and keeps all else. -/
def Form.rename {α : Type} (form : Form Char α) (replace : α → Naming Text) (s : Text) :
    Naming Text :=
  List.flatten <$> (form.pieces none s).mapM fun
    | .gap c => pure [c]
    | .hit a => replace a

end ClassScope
