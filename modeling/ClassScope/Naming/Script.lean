import ClassScope.Naming.Stylesheet

/-!
# Scripts

Class names occur in a script in three forms: a string literal that is a class selector, a call of a
`classList` method with a literal argument, and a lookup by an id that is used as a class hook. Each
form has a renaming pass of its own, and the three run one after the other.
-/

namespace ClassScope.Script

/-! ## Selector literals -/

/-- A string literal that holds one class selector and nothing else, as in `'.menu'`. -/
structure SelectorLiteral where
  /-- The quote at both ends. -/
  quote : Char
  /-- The class name. -/
  name : Text
  deriving DecidableEq, Repr

/-- The text of a selector literal. -/
def SelectorLiteral.write (l : SelectorLiteral) : Text := l.quote :: '.' :: l.name ++ [l.quote]

/-- The selector literal at the front of a text. -/
def SelectorLiteral.read? : Text → Option (SelectorLiteral × Text)
  | quote :: '.' :: s =>
    if Text.isQuote quote then
      match readIdentifier? s with
      | some (name, c :: r) => if c = quote then some (⟨quote, name⟩, r) else none
      | _ => none
    else none
  | _ => none

/-- Selector literals. -/
def selectorLiteral : Form Char SelectorLiteral where
  write := SelectorLiteral.write
  read _ := SelectorLiteral.read?
  sound := by
    intro _ s l r h
    unfold SelectorLiteral.read? at h
    split at h
    · split at h
      · split at h
        · rename_i hname
          split at h
          · simp only [Option.some.injEq, Prod.mk.injEq] at h
            obtain ⟨rfl, rfl⟩ := h
            subst_vars
            rw [eq_append_of_readIdentifier? hname]
            simp [SelectorLiteral.write]
          · simp at h
        · simp at h
      · simp at h
    · simp at h

/-- The script with the names in selector literals in scope. -/
def renameSelectors (code : Text) : Naming Text :=
  selectorLiteral.rename
    (fun l => do return SelectorLiteral.write { l with name := ← Registry.resolve l.name }) code

/-! ## Quoted arguments -/

/-- A literal argument in parentheses. The quotes at its two ends may differ. -/
structure Argument where
  /-- The quote at the start. -/
  opening : Char
  /-- The text between the quotes, which holds no quote. -/
  value : Text
  /-- The quote at the end. -/
  closing : Char
  deriving DecidableEq, Repr

/-- The text of an argument. -/
def Argument.write (a : Argument) : Text := a.opening :: a.value ++ [a.closing, ')']

/-- The argument at the front of a text, up to the closing parenthesis. -/
def Argument.read? : Text → Option (Argument × Text)
  | opening :: s =>
    let value := s.takeWhile (!Text.isQuote ·)
    match s.dropWhile (!Text.isQuote ·) with
    | closing :: ')' :: r =>
      if Text.isQuote opening ∧ value ≠ [] then some (⟨opening, value, closing⟩, r) else none
    | _ => none
  | [] => none

/-- An argument that is read is the front of the text. -/
theorem Argument.eq_append_of_read? {s r : Text} {a : Argument} (h : read? s = some (a, r)) :
    s = a.write ++ r := by
  unfold read? at h
  split at h
  · rename_i opening s
    simp only at h
    split at h
    · rename_i closing t hdrop
      split at h
      · simp only [Option.some.injEq, Prod.mk.injEq] at h
        obtain ⟨rfl, rfl⟩ := h
        simp only [write, List.cons_append, List.append_assoc, List.nil_append, List.cons.injEq,
          true_and]
        rw [← hdrop, List.takeWhile_append_dropWhile]
      · simp at h
    · simp at h
  · simp at h

/-! ## Calls of class list methods -/

/-- The methods whose single argument is a class name. -/
inductive Method where
  | add
  | remove
  | toggle
  | contains
  deriving DecidableEq, Repr

/-- The name of a method. -/
def Method.word : Method → Text
  | .add => Text.of "add"
  | .remove => Text.of "remove"
  | .toggle => Text.of "toggle"
  | .contains => Text.of "contains"

/-- All methods. -/
def Method.all : List Method := [.add, .remove, .toggle, .contains]

/-- A call of a class list method with a literal argument. -/
structure ClassListCall where
  /-- The method that is called. -/
  method : Method
  /-- The argument. -/
  argument : Argument
  deriving DecidableEq, Repr

/-- The text of a call. -/
def ClassListCall.write (call : ClassListCall) : Text :=
  Text.of "classList." ++ (call.method.word ++ ('(' :: call.argument.write))

/-- The method whose name stands at the front of a text. -/
def Method.read? (s : Text) : Option (Method × Text) :=
  all.findSome? fun method => (Text.after? (method.word ++ ['(']) s).map (method, ·)

/-- The call at the front of a text. -/
def ClassListCall.read? (s : Text) : Option (ClassListCall × Text) := do
  let s ← Text.after? (Text.of "classList.") s
  let (method, s) ← Method.read? s
  let (argument, s) ← Argument.read? s
  some (⟨method, argument⟩, s)

/-- A method that is read is the front of the text, with a parenthesis. -/
theorem Method.eq_append_of_read? {s r : Text} {method : Method} (h : read? s = some (method, r)) :
    s = method.word ++ ('(' :: r) := by
  obtain ⟨m, _, hm⟩ := List.exists_of_findSome?_eq_some h
  simp only [Option.map_eq_some_iff, Prod.mk.injEq] at hm
  obtain ⟨t, ht, rfl, rfl⟩ := hm
  rw [Text.after?_eq_some_iff.1 ht]
  simp

/-- Calls of class list methods. -/
def classListCall : Form Char ClassListCall where
  write := ClassListCall.write
  read _ := ClassListCall.read?
  sound := by
    intro _ s call r h
    simp only [ClassListCall.read?, Option.bind_eq_bind, Option.bind_eq_some_iff,
      Option.some.injEq, Prod.mk.injEq, Prod.exists] at h
    obtain ⟨t, ht, method, u, hu, argument, v, hv, rfl, rfl⟩ := h
    rw [Text.after?_eq_some_iff.1 ht, Method.eq_append_of_read? hu, Argument.eq_append_of_read? hv]
    simp [ClassListCall.write]

/-- The script with the class names in class list calls in scope, in single quotes. -/
def renameCalls (code : Text) : Naming Text :=
  classListCall.rename
    (fun call => do
      let name ← Registry.resolve call.argument.value
      return ClassListCall.write ⟨call.method, '\x27', name, '\x27'⟩)
    code

/-! ## Lookups by id -/

/-- The text of a lookup by id, given by its argument. -/
def writeIdLookup (a : Argument) : Text := Text.of "getElementById(" ++ a.write

/-- The lookup at the front of a text. -/
def readIdLookup? (s : Text) : Option (Argument × Text) := do
  let s ← Text.after? (Text.of "getElementById(") s
  Argument.read? s

/-- Lookups by id. -/
def idLookup : Form Char Argument where
  write := writeIdLookup
  read _ := readIdLookup?
  sound := by
    intro _ s a r h
    simp only [readIdLookup?, Option.bind_eq_bind, Option.bind_eq_some_iff] at h
    obtain ⟨t, ht, hr⟩ := h
    rw [Text.after?_eq_some_iff.1 ht, Argument.eq_append_of_read? hr]
    simp [writeIdLookup, Argument.write]

/-- The script with lookups by a hyphenated id turned into class queries. Such ids are taken for
class hooks; an id without a hyphen is taken for the id of an element, and its lookup is kept. -/
def renameLookups (code : Text) : Naming Text :=
  idLookup.rename
    (fun a => do
      if '-' ∈ a.value then
        let name ← Registry.resolve a.value
        return Text.of "querySelector('." ++ name ++ Text.of "')"
      else return writeIdLookup a)
    code

/-! ## The three passes -/

/-- The script with all its class names in scope. -/
def rename (code : Text) : Naming Text := do
  let code ← renameSelectors code
  let code ← renameCalls code
  renameLookups code

end ClassScope.Script
