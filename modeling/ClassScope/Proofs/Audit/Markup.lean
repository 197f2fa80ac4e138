import ClassScope.Audit.Markup
import ClassScope.Proofs.Html.Reading
import ClassScope.Proofs.Naming.Documents

/-!
# The findings in renamed markup

The pass over class attributes and the audit find class names in two ways: the pass by the text of
an attribute, the audit by reading the tags. In a plain document they agree, so there is nothing
left to report after the pass. Main statement: `Audit.markupFindings_renamed`.
-/

namespace ClassScope.Audit

open Html Registry

variable {p : Text}

/-- A class of an element, after the pass, is in the scope. -/
theorem prefix_of_mem_classes (hp : PlainScope p) {parts : List Part} {node : Node} {name : Text}
    (hnode : node ∈ nodesFrom [] ((parts.map (Part.inScope hp)).filterMap Part.tag?))
    (hname : name ∈ node.classes) : p <+: name := by
  obtain ⟨opening, hopening, hattributes⟩ := exists_of_mem_nodesFrom hnode
  obtain ⟨part, hpart, htag⟩ := List.mem_filterMap.1 hopening
  obtain ⟨before, -, rfl⟩ := List.mem_map.1 hpart
  cases before with
  | text => cases htag
  | closing => cases htag
  | opening tag =>
    obtain rfl := Tag.opening.inj (Option.some.inj htag)
    rw [Node.classes, hattributes] at hname
    change name ∈
      Text.words ((Table.get? (tag.inScope hp).table (Text.of "class")).getD []) at hname
    match hget : Table.get? (tag.inScope hp).table (Text.of "class") with
    | none =>
      rw [hget] at hname
      cases hname
    | some value =>
      obtain ⟨after, hafter, hclass, rfl⟩ := PlainTag.exists_of_get?_table hget
      obtain ⟨a, -, rfl⟩ := List.mem_map.1 hafter
      rw [a.name_inScope hp] at hclass
      rw [hget, Option.getD_some, PlainAttribute.value_inScope hp (hclass ▸ List.suffix_refl _),
        Markup.words_valueInScope fun c hc => (hp c hc).2] at hname
      obtain ⟨word, -, rfl⟩ := List.mem_map.1 hname
      exact List.prefix_append p word

/-- There are no findings in a plain document that has been renamed. -/
theorem markupFindings_renamed (hp : PlainScope p) (trees : List Tree) :
    markupFindings p (renamed Markup.renameAttributes p (writeTrees trees)) = .ok [] := by
  rw [(Markup.looksUp_renameAttributes (.text p) (writeTrees trees)).renamed_eq, writeTrees,
    attributesInScope_write hp, markupFindings, nodes, tags_write]
  change Except.ok _ = Except.ok _
  refine congrArg Except.ok (List.flatMap_eq_nil_iff.2 fun node hnode => ?_)
  rw [nodeFindings, List.map_eq_nil_iff, List.filter_eq_nil_iff]
  intro name hname
  obtain ⟨rest, rfl⟩ := prefix_of_mem_classes hp hnode hname
  simp [Text.startsWith]

/-- An element with two classes; in it stand a text and an element whose only class is in an
attribute that is not read as classes. -/
def cards : List Tree :=
  [.element
    { name := Text.of "div"
      attributes := [{ name := Text.of "id", value := Text.of "app" },
        { name := Text.of "class", value := Text.of " card  open" }] }
    [.text (Text.of "class"),
      .element
        { name := Text.of "p"
          attributes := [{ name := Text.of "data-class", value := Text.of "x" },
            { name := Text.of "class", value := [] }] }
        []]]

/-- The pass leaves nothing to report of two findings. -/
theorem markupFindings_renamed_cards :
    PlainScope (Text.of "dwp-") ∧
      markupFindings (Text.of "dwp-") (writeTrees cards) =
        .ok [⟨Text.of "/div#app", Text.of "card"⟩, ⟨Text.of "/div#app", Text.of "open"⟩] ∧
      markupFindings (Text.of "dwp-")
        (renamed Markup.renameAttributes (Text.of "dwp-") (writeTrees cards)) = .ok [] := by
  have hp : PlainScope (Text.of "dwp-") := by decide +kernel
  exact ⟨hp, by decide +kernel, markupFindings_renamed hp cards⟩

end ClassScope.Audit
