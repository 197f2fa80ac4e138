import ClassScope.Html.Reader

/-!
# Elements

The elements of a document in order, each with its place among the elements that are open around it.
No element is closed by the start of another one; a closing tag closes everything down to the
innermost open element of its name, and is ignored without one. An element that has no content by
its name or by its tag is closed as soon as it is opened.
-/

namespace ClassScope.Html

/-- An element among those around it. -/
structure Element where
  /-- The name. -/
  name : Text
  /-- The value of the `id` attribute, empty without one. -/
  id : Text
  deriving DecidableEq, Repr

/-- An element where it stands. -/
structure Node where
  /-- The element and the elements around it, the innermost first. -/
  line : List Element
  /-- Its attributes. -/
  attributes : List (Text × Text)
  deriving DecidableEq, Repr

/-- The elements that have no content. -/
def voidNames : List Text :=
  ["area", "base", "basefont", "bgsound", "br", "col", "command", "embed", "frame", "hr", "image",
    "img", "input", "isindex", "keygen", "link", "menuitem", "meta", "nextid", "param", "source",
    "spacer", "track", "wbr"].map String.toList

/-- The open elements after the innermost one of a name was closed with all that is in it. -/
def close (name : Text) (line : List Element) : List Element :=
  match line.dropWhile (·.name ≠ name) with
  | [] => line
  | _ :: line => line

/-- The element that an opening tag starts. -/
def OpeningTag.element (tag : OpeningTag) : Element :=
  ⟨tag.name, (Table.get? tag.attributes (Text.of "id")).getD []⟩

/-- The element of an opening tag is closed as soon as it is opened. -/
def OpeningTag.isEmpty (tag : OpeningTag) : Bool := tag.closed || voidNames.contains tag.name

/-- The elements that some tags start, where the elements of `line` are open. -/
def nodesFrom (line : List Element) : List Tag → List Node
  | [] => []
  | .opening tag :: tags =>
    let inner := tag.element :: line
    ⟨inner, tag.attributes⟩ :: nodesFrom (if tag.isEmpty then line else inner) tags
  | .closing name :: tags => nodesFrom (close name line) tags

/-- The elements of a document in order. -/
def nodes (s : Text) : Except Rejection (List Node) := nodesFrom [] <$> tags s

/-- The name of an element with its id. -/
def Element.text (element : Element) : Text :=
  element.name ++ (if element.id = [] then [] else '#' :: element.id)

/-- The way to an element from the outermost one, in the manner of a path. -/
def Node.path (node : Node) : Text :=
  '/' :: Text.join ['/'] (node.line.reverse.map Element.text)

/-- The class names of an element. -/
def Node.classes (node : Node) : List Text :=
  Text.words ((Table.get? node.attributes (Text.of "class")).getD [])

end ClassScope.Html
