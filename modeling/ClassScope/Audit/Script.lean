import ClassScope.Naming.Script
import ClassScope.Text.Blank
import ClassScope.Text.Lines
import ClassScope.Text.Word

/-!
# Findings in scripts

What the renaming of a script misses by its nature: calls of `classList` methods that take no class
name or more than one, calls whose argument is computed, and assignments to `className`.
-/

namespace ClassScope.Audit

/-- What is wrong with a place in a script. -/
inductive Issue where
  /-- The method of a class list call is none of those whose calls are renamed. -/
  | unsupportedMethod
  /-- A class list call has several arguments, all literals. -/
  | multipleArguments
  /-- The argument of a class list call is no literal. -/
  | computedArgument
  /-- The class attribute is assigned as a whole. -/
  | classNameAssignment
  deriving DecidableEq, Repr

/-- The name of an issue. -/
def Issue.word : Issue → String
  | .unsupportedMethod => "unsupported-method"
  | .multipleArguments => "multiple-arguments"
  | .computedArgument => "computed-argument"
  | .classNameAssignment => "className-assignment"

/-- An issue with the stretch of the script that has it. -/
structure ScriptFinding where
  /-- What is wrong. -/
  issue : Issue
  /-- The stretch of the script. -/
  snippet : Text
  deriving DecidableEq, Repr

/-! ## Calls of class list methods -/

/-- A call of any method of a class list. -/
structure AnyCall where
  /-- The name of the method. -/
  method : Text
  /-- What stands between the parentheses. -/
  arguments : Text
  deriving DecidableEq, Repr

/-- The text of a call. -/
def AnyCall.write (call : AnyCall) : Text :=
  Text.of "classList." ++ (call.method ++ ('(' :: call.arguments ++ [')']))

/-- The call at the front of a text. Its arguments end at the first closing parenthesis. -/
def AnyCall.read? (s : Text) : Option (AnyCall × Text) :=
  match Text.after? (Text.of "classList.") s with
  | none => none
  | some s =>
    let method := s.takeWhile Text.isWord
    match s.dropWhile Text.isWord with
    | '(' :: t =>
      match t.dropWhile (· ≠ ')') with
      | ')' :: r => if method = [] then none else some (⟨method, t.takeWhile (· ≠ ')')⟩, r)
      | _ => none
    | _ => none

/-- Calls of any method of a class list. -/
def anyCall : Form Char AnyCall where
  write := AnyCall.write
  read _ := AnyCall.read?
  sound := by
    intro _ s call r h
    unfold AnyCall.read? at h
    split at h
    · simp at h
    · rename_i t ht
      simp only at h
      split at h
      · rename_i u hu
        split at h
        · rename_i v hv
          split at h
          · simp at h
          · simp only [Option.some.injEq, Prod.mk.injEq] at h
            obtain ⟨rfl, rfl⟩ := h
            rw [Text.after?_eq_some_iff.1 ht]
            refine ⟨?_, by simp [AnyCall.write]⟩
            simp only [AnyCall.write, List.append_assoc, List.cons_append, List.nil_append,
              List.append_cancel_left_eq]
            rw [← hv, List.takeWhile_append_dropWhile, ← hu, List.takeWhile_append_dropWhile]
        · simp at h
      · simp at h

/-- A text is one string literal that is not empty, with blanks around it perhaps. -/
def isLiteral (s : Text) : Bool :=
  match Text.strip s with
  | [] => false
  | quote :: t =>
    let body := t.takeWhile (!Text.isQuote ·)
    Text.isQuote quote && !body.isEmpty && t.dropWhile (!Text.isQuote ·) == [quote]

/-- The issue of a call, if it has one. -/
def AnyCall.issue? (call : AnyCall) : Option Issue :=
  let parts := Text.splitBy (· == ',') call.arguments
  if !(Script.Method.all.map Script.Method.word).contains call.method then
    some .unsupportedMethod
  else if 1 < parts.length && parts.all isLiteral then some .multipleArguments
  else if !isLiteral call.arguments then some .computedArgument
  else none

/-- The findings among the class list calls of a script. -/
def callFindings (code : Text) : List ScriptFinding :=
  (anyCall.find code).filterMap fun call => call.issue?.map (⟨·, call.write⟩)

/-! ## Assignments -/

/-- What stands behind the equals sign of an assignment to `className`, if one starts here. -/
def afterAssignment? (s : Text) : Option Text :=
  match Text.after? (Text.of ".className") s with
  | none => none
  | some s =>
    let s := Text.stripLeft s
    let s := if s.head? = some '+' then s.drop 1 else s
    match s with
    | '=' :: r => if r.head? = some '=' then none else some r
    | _ => none

/-- What stands behind the equals sign of the last assignment that starts on this line. -/
def afterLastAssignment? : Text → Option Text
  | [] => none
  | c :: s =>
    if c = '\n' then none else (afterLastAssignment? s).or (afterAssignment? (c :: s))

/-- The findings among the assignments of a text that starts at the start of a line, in at most
`fuel` lines. A finding is the line of an assignment; it goes on to the line of the equals sign. -/
def assignmentsFrom : (fuel : Nat) → Text → List ScriptFinding
  | 0, _ => []
  | fuel + 1, s =>
    match s, afterLastAssignment? s with
    | [], _ => []
    | s, some r =>
      let rest := r.dropWhile (· ≠ '\n')
      ⟨.classNameAssignment, Text.strip (s.take (s.length - rest.length))⟩ ::
        assignmentsFrom fuel (rest.drop 1)
    | s, none => assignmentsFrom fuel (Text.afterLine s)

/-- The findings among the assignments of a script. -/
def assignmentFindings (code : Text) : List ScriptFinding := assignmentsFrom code.length code

/-- The findings of a script: those among its calls, then those among its assignments. -/
def scriptFindings (code : Text) : List ScriptFinding :=
  callFindings code ++ assignmentFindings code

end ClassScope.Audit
