import ClassScope.Proofs.Naming.Cuts

/-!
# Class attributes

The pass over class attributes goes by quotes and not by tags, so that it does the same to malformed
markup: from the head of an attribute the value goes up to the next double quote, wherever that
stands. Afterwards every value is in normal form, its names with one space between neighbours, and a
scope that adds nothing to a name changes nothing any more. Main statements:

- `Markup.reads_classAttribute`: what is read as a class attribute;
- `Markup.renameAttributes_cut`: what the pass does, and that its output is in normal form.
-/

namespace ClassScope.Markup

open Form (hits replacePieces)

/-- The value of a class attribute: it goes up to the next double quote, and it is not empty. -/
structure IsValue (value : Text) : Prop where
  /-- It has no double quote. -/
  no_quote : '\x22' ∉ value
  /-- It is not empty; it may be blank. -/
  ne_nil : value ≠ []

theorem reads_classAttribute : classAttribute.Reads IsValue := by
  intro _ s value r
  rw [show classAttribute.read _ s = readClassAttribute? s from rfl,
    readClassAttribute?_eq_some_iff]
  exact and_congr_right fun _ => ⟨fun h => ⟨h.1, h.2⟩, fun h => ⟨h.no_quote, h.ne_nil⟩⟩

/-- Markup has one cut into class attributes and gaps, and a value has one list of words. The pass
over class attributes puts the scope in front of each word of the values of the cut, writes the
words with one space between neighbours, keeps the gaps, and looks the words up in their order. If
the scope has no blank and no double quote, a second pass in the empty scope keeps the markup. -/
theorem renameAttributes_cut (html : Text) :
    (∃! ps, classAttribute.IsCut IsValue ps html) ∧
      (∀ value words, Text.AreWords words value ↔ words = Text.words value) ∧
      (∀ ps, classAttribute.IsCut IsValue ps html → ∀ scope : Setting,
        (renameAttributes html).LooksUp scope ((hits ps).flatMap Text.words)
          (replacePieces
            (fun value =>
              writeClassAttribute
                (Text.join [' '] ((Text.words value).map fun word => scope.asText ++ word)))
            ps)) ∧
      ∀ p : Text, (∀ c ∈ p, Text.isBlank c = false) → '\x22' ∉ p →
        renamed renameAttributes [] (renamed renameAttributes p html) =
          renamed renameAttributes p html := by
  refine ⟨reads_classAttribute.existsUnique_isCut html, fun _ _ => Text.areWords_iff,
    fun ps hcut scope => ?_, fun p hblank hquote => ?_⟩
  · have hpass := looksUp_renameAttributes scope html
    rw [names, reads_classAttribute.find_eq hcut, attributesInScope,
      reads_classAttribute.substitute_eq hcut] at hpass
    exact hpass
  · have htext (q s : Text) : renamed renameAttributes q s = attributesInScope (.text q) s :=
      (looksUp_renameAttributes (.text q) s).renamed_eq
    have hfits : FitsValues p := ⟨hblank, hquote⟩
    rw [htext, htext, hfits.attributesInScope_attributesInScope, List.nil_append]

/-- The quote in front of `y` ends the value in which an attribute seems to start. The words of that
value are parted by a no-break space and a line feed; the second value is blank, and what has no
value at all is a gap. -/
theorem renameAttributes_cut_nested :
    let html := Text.of "class=\"x\u00a0\nclass=\"y\"class=\" \"class=\"\""
    let output := Text.of "class=\"p-x p-class=\"y\"class=\"\"class=\"\""
    let ps : List (Piece Char Text) :=
      .hit (Text.of "x\u00a0\nclass=") :: .gap 'y' :: .gap '\x22' :: .hit [' '] ::
        (Text.of "class=\"\"").map .gap
    classAttribute.IsCut IsValue ps html ∧
      (renameAttributes html).LooksUp (.text (Text.of "p-")) [['x'], Text.of "class="] output ∧
      (∀ c ∈ Text.of "p-", Text.isBlank c = false) ∧ '\x22' ∉ Text.of "p-" ∧
      renamed renameAttributes (Text.of "p-") html = output ∧
      renamed renameAttributes [] output = output := by
  intro html output ps
  have hcut : classAttribute.IsCut IsValue ps html :=
    reads_classAttribute.isCut_iff.2 (by decide +kernel)
  have hnone : (Text.of "p-").any Text.isBlank = false := by decide +kernel
  have hblank : ∀ c ∈ Text.of "p-", Text.isBlank c = false := by simpa using hnone
  have hquote : '\x22' ∉ Text.of "p-" := by decide +kernel
  have houtput : renamed renameAttributes (Text.of "p-") html = output := by decide +kernel
  obtain ⟨-, -, hpass, hagain⟩ := renameAttributes_cut html
  have hfirst := hpass ps hcut (.text (Text.of "p-"))
  have hsecond := hagain (Text.of "p-") hblank hquote
  rw [show (hits ps).flatMap Text.words = [['x'], Text.of "class="] by decide +kernel,
    show replacePieces _ ps = output by decide +kernel] at hfirst
  rw [houtput] at hsecond
  exact ⟨hcut, hfirst, hblank, hquote, houtput, hsecond⟩

end ClassScope.Markup
