import ClassScope.Html.Outline

/-!
# Findings in markup

The class names of a document that are not in scope, with the elements they stand on. A document
that cannot be read has no findings but an error.
-/

namespace ClassScope.Audit

/-- A class name that is not in scope. -/
structure MarkupFinding where
  /-- The way to the element from the outermost one. -/
  path : Text
  /-- The class name. -/
  name : Text
  deriving DecidableEq, Repr

/-- The findings on one element. -/
def nodeFindings (scope : Text) (node : Html.Node) : List MarkupFinding :=
  (node.classes.filter fun name => !Text.startsWith scope name).map (⟨node.path, ·⟩)

/-- The findings in a document, in the order of its elements. -/
def markupFindings (scope html : Text) : Except Html.Rejection (List MarkupFinding) :=
  (·.flatMap (nodeFindings scope)) <$> Html.nodes html

end ClassScope.Audit
