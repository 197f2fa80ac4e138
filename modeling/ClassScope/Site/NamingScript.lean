import ClassScope.Naming.Form
import ClassScope.Setting

/-!
# The naming script

The scripts of a page find the class names in scope through a global object. It is published by a
short inline script, which has to run before any other one and so stands right after the opening tag
of the head.
-/

namespace ClassScope.NamingScript

/-- What the global object is assigned to; markup that holds it has a naming script already. -/
def assignment : Text := Text.of "window.__classNames="

/-- The script that publishes a scope. -/
def render (scope : Setting) : Text :=
  let s := scope.literal
  Text.of "<script>" ++ assignment ++ Text.of "\x7bprefix:" ++ s ++
    Text.of ",cls:function(n)\x7breturn " ++ s ++ Text.of "+n\x7d," ++
    Text.of "sel:function(n)\x7breturn \".\"+" ++ s ++ Text.of "+n\x7d\x7d;</script>"

/-- The opening tag of a head. -/
structure HeadTag where
  /-- The tag name in the letter case it has. -/
  name : WideText
  /-- What stands between the name and the end of the tag. -/
  attributes : WideText
  deriving DecidableEq, Repr

/-- The text of an opening tag. -/
def HeadTag.write (tag : HeadTag) : WideText :=
  .char '<' :: tag.name ++ (tag.attributes ++ [.char '>'])

/-- The opening tag of a head at the front of a text. Its name may not go on as a word. -/
def HeadTag.read? : WideText → Option (HeadTag × WideText)
  | .char '<' :: s =>
    let name := s.take 4
    let attributes := (s.drop 4).takeWhile (· ≠ .char '>')
    match (s.drop 4).dropWhile (· ≠ .char '>') with
    | [] => none
    | _ :: r =>
      if name.map CodePoint.toLower = WideText.of "head" ∧
          ¬ attributes.head?.any CodePoint.isWord then
        some (⟨name, attributes⟩, r)
      else none
  | _ => none

/-- Opening tags of heads. -/
def headTag : Form CodePoint HeadTag where
  write := HeadTag.write
  read _ := HeadTag.read?
  sound := by
    intro _ s tag r h
    unfold HeadTag.read? at h
    split at h
    · rename_i s
      simp only at h
      split at h
      · simp at h
      · rename_i c t ht
        split at h
        · simp only [Option.some.injEq, Prod.mk.injEq] at h
          obtain ⟨rfl, rfl⟩ := h
          have hc := Text.dropWhile_ne_eq_cons ht
          subst hc
          refine ⟨?_, by simp [HeadTag.write]⟩
          simp only [HeadTag.write, List.append_assoc, List.cons_append, List.nil_append]
          rw [← ht, List.takeWhile_append_dropWhile, List.take_append_drop]
        · simp at h
    · simp at h

/-- The text of some pieces with `added` behind the first instance, if there is one. -/
def insertAfterFirst? {σ α : Type} (form : Form σ α) (added : List σ) :
    List (Piece σ α) → Option (List σ)
  | [] => none
  | .gap c :: pieces => (c :: ·) <$> insertAfterFirst? form added pieces
  | .hit a :: pieces => some (form.write a ++ added ++ pieces.flatMap form.writePiece)

/-- The markup with a naming script, after the first opening tag of a head or, without one, in
front. Markup that has a naming script already is kept. -/
def inject (scope : Setting) (html : WideText) : WideText :=
  if Text.occurs (WideText.ofText assignment) html then html
  else
    let script := render scope
    let indented := WideText.ofText (Text.of "\n    " ++ script)
    match insertAfterFirst? headTag indented (headTag.pieces none html) with
    | some html => html
    | none => WideText.ofText (script ++ ['\n']) ++ html

end ClassScope.NamingScript
