import ClassScope.Proofs.Html.Document
import ClassScope.Proofs.Naming.Composition

/-!
# The pass over the markup of a plain document

The pass over class attributes knows no tags, it looks for `class=` and a value in double quotes. In
the text of a plain document it finds that in the attributes only: an equals sign stands behind the
name of an attribute and nowhere else. So it rewrites the values of the attributes whose names end
with `class`. Main statements:

- `Html.PlainAttribute.attributesInScope_append`: one attribute;
- `Html.attributesInScope_write`: a document, part after part.
-/

namespace ClassScope.Html

open Markup (attributesInScope valueInScope writeClassAttribute classAttribute)

/-- No character of the scope is a blank or means anything to markup. -/
def PlainScope (p : Text) : Prop := ∀ c ∈ p, isPlainChar c = true ∧ Text.isBlank c = false

instance (p : Text) : Decidable (PlainScope p) :=
  decidable_of_iff (p.all (fun c => isPlainChar c && !Text.isBlank c) = true) (by simp [PlainScope])

variable {p s s' t value : Text}

/-- A value in a plain scope is plain. -/
theorem Plain.valueInScope (hp : PlainScope p) (h : Plain value) :
    Plain (valueInScope (.text p) value) := by
  intro c hc
  rcases Markup.mem_valueInScope hc with rfl | hc | hc
  · decide
  · exact (hp c hc).1
  · exact h c hc

/-- The attribute after the pass. -/
def PlainAttribute.inScope (hp : PlainScope p) (a : PlainAttribute) : PlainAttribute :=
  if Text.of "class" <:+ a.name then
    { a with
      value := Markup.valueInScope (.text p) a.value
      value_plain := a.value_plain.valueInScope hp }
  else a

theorem PlainAttribute.name_inScope (hp : PlainScope p) (a : PlainAttribute) :
    (a.inScope hp).name = a.name := by
  unfold PlainAttribute.inScope
  split <;> rfl

theorem PlainAttribute.value_inScope (hp : PlainScope p) {a : PlainAttribute}
    (h : Text.of "class" <:+ a.name) :
    (a.inScope hp).value = Markup.valueInScope (.text p) a.value := by
  rw [PlainAttribute.inScope, if_pos h]

/-- The tag after the pass. -/
def PlainTag.inScope (hp : PlainScope p) (tag : PlainTag) : PlainTag :=
  { tag with attributes := tag.attributes.map (PlainAttribute.inScope hp) }

/-- The part after the pass. -/
def Part.inScope (hp : PlainScope p) : Part → Part
  | .text s plain => .text s plain
  | .opening tag => .opening (tag.inScope hp)
  | .closing tag => .closing tag

/-! ## Where class attributes are found -/

/-- A character that stands neither behind the name of an attribute nor around a value. -/
def isUnmarked (c : Char) : Bool := c != '=' && c != '\x22'

/-- There is no equals sign and no double quote in the text. -/
def Unmarked (s : Text) : Prop := ∀ c ∈ s, isUnmarked c = true

instance (s : Text) : Decidable (Unmarked s) :=
  decidable_of_iff (s.all isUnmarked = true) List.all_eq_true

theorem unmarked_nil : Unmarked [] := List.forall_mem_nil _

theorem Unmarked.append (hs : Unmarked s) (ht : Unmarked t) : Unmarked (s ++ t) :=
  List.forall_mem_append.2 ⟨hs, ht⟩

theorem Unmarked.cons {c : Char} (hc : isUnmarked c = true) (hs : Unmarked s) : Unmarked (c :: s) :=
  List.forall_mem_cons.2 ⟨hc, hs⟩

theorem Plain.unmarked (h : Plain s) : Unmarked s := by
  intro c hc
  have hplain := h c hc
  simp only [isPlainChar, decide_eq_true_eq, List.mem_cons, not_or] at hplain
  simp [isUnmarked, hplain]

/-- In front of the first mark of a text stands `class` and nothing else, if a class attribute is
read there. -/
theorem read_of_unmarked {c : Char} {found : Text × Text} (hs : Unmarked s)
    (hc : isUnmarked c = false) (hread : classAttribute.read none (s ++ c :: t) = some found) :
    s = Text.of "class" ∧ c = '=' := by
  obtain ⟨value, r⟩ := found
  obtain ⟨heq, -⟩ := Markup.readClassAttribute?_eq_some_iff.1 hread
  have hclass : Unmarked (Text.of "class") := by decide +kernel
  have hwrite : writeClassAttribute value ++ r =
      Text.of "class" ++ '=' :: '\x22' :: (value ++ '\x22' :: r) := by
    simp [writeClassAttribute, Text.of_eq_toList]
  rw [hwrite] at heq
  obtain ⟨hs, hc, -⟩ := Text.append_cons_inj_of hs hclass hc (by decide) heq
  exact ⟨hs, hc⟩

/-- A stretch is kept as far as a mark behind it, if no class attribute goes on there. -/
theorem attributesInScope_append_mark {c : Char} (hs : Unmarked s) (hc : isUnmarked c = false)
    (hclass : ¬ Text.of "class" <:+ s ∨ c ≠ '=') :
    attributesInScope (.text p) (s ++ c :: t) = s ++ c :: attributesInScope (.text p) t := by
  have hnone : ∀ v, v <:+ s → classAttribute.read none (v ++ c :: t) = none := by
    intro v hv
    by_contra hsome
    obtain ⟨found, hread⟩ := Option.ne_none_iff_exists'.1 hsome
    obtain ⟨rfl, hequals⟩ := read_of_unmarked (fun d hd => hs d (hv.subset hd)) hc hread
    exact hclass.elim (fun h => h hv) fun h => h hequals
  rw [attributesInScope, Form.substitute_append_of_not_read Markup.contextFree_classAttribute
    fun v _ hv => hnone v hv]
  exact congrArg (s ++ ·) (Form.substitute_of_not_read Markup.contextFree_classAttribute
    (hnone [] List.nil_suffix))

/-- A stretch in front of a class attribute is kept. -/
theorem attributesInScope_append_class (hs : Unmarked s) (value t : Text) :
    attributesInScope (.text p) (s ++ (writeClassAttribute value ++ t)) =
      s ++ attributesInScope (.text p) (writeClassAttribute value ++ t) := by
  refine Form.substitute_append_of_not_read Markup.contextFree_classAttribute fun v hv hsuffix => ?_
  have hclass : Unmarked (Text.of "class") := by decide +kernel
  have hwrite : v ++ (writeClassAttribute value ++ t) =
      (v ++ Text.of "class") ++ '=' :: '\x22' :: (value ++ '\x22' :: t) := by
    simp [writeClassAttribute, Text.of_eq_toList]
  by_contra hsome
  obtain ⟨found, hread⟩ := Option.ne_none_iff_exists'.1 hsome
  rw [hwrite] at hread
  have hfront : Unmarked v := fun d hd => hs d (hsuffix.subset hd)
  exact hv (List.append_left_eq_self.1
    (read_of_unmarked (hfront.append hclass) (by decide) hread).1)

/-- A stretch at the end is kept. -/
theorem attributesInScope_unmarked (hs : Unmarked s) : attributesInScope (.text p) s = s := by
  refine Form.substitute_eq_self Markup.contextFree_classAttribute fun value hvalue => ?_
  obtain ⟨u, v, rfl, -⟩ := Form.exists_of_mem_find Markup.contextFree_classAttribute hvalue
  have hquote : '\x22' ∈ u ++ (classAttribute.write value ++ v) := by
    simp [classAttribute, writeClassAttribute]
  exact absurd (hs _ hquote) (by decide)

/-- A class attribute is put in the scope, an empty one as well. -/
theorem attributesInScope_writeClassAttribute (hvalue : '\x22' ∉ value) (t : Text) :
    attributesInScope (.text p) (writeClassAttribute value ++ t) =
      writeClassAttribute (valueInScope (.text p) value) ++ attributesInScope (.text p) t := by
  by_cases hne : value = []
  · rw [hne, Markup.attributesInScope_writeClassAttribute_nil]
    rfl
  · exact Markup.attributesInScope_of_read
      (Markup.readClassAttribute?_eq_some_iff.2 ⟨rfl, hvalue, hne⟩)

/-! ## Documents -/

/-- The name of an attribute has no mark. -/
theorem PlainAttribute.unmarked_name (a : PlainAttribute) : Unmarked a.name :=
  Plain.unmarked fun _ hc => (isNameChar_facts (a.isNameChar_of_mem hc)).2.2.2.2.1

/-- The name of an element has no mark. -/
theorem PlainTag.unmarked_name (tag : PlainTag) : Unmarked tag.name :=
  Plain.unmarked fun _ hc =>
    (isNameChar_facts (isNameChar_of_isLowerLetter (tag.isLowerLetter_of_mem hc))).2.2.2.2.1

/-- An attribute is put in the scope, whatever stands in front of it. -/
theorem PlainAttribute.attributesInScope_append (hp : PlainScope p) (a : PlainAttribute)
    (ht : Unmarked t) (s : Text) :
    attributesInScope (.text p) (t ++ (a.write ++ s)) =
      t ++ ((a.inScope hp).write ++ attributesInScope (.text p) s) := by
  have hquote : '\x22' ∉ a.value := a.not_mem_value (by decide)
  rw [a.write_append]
  by_cases hclass : Text.of "class" <:+ a.name
  · obtain ⟨front, hfront⟩ := hclass
    have hunmarked : Unmarked (t ++ ' ' :: front) := by
      refine ht.append (Unmarked.cons (by decide) fun c hc => a.unmarked_name c ?_)
      rw [← hfront]
      exact List.mem_append_left _ hc
    have hsplit : ∀ value s : Text,
        t ++ ' ' :: (a.name ++ '=' :: '\x22' :: (value ++ '\x22' :: s)) =
          (t ++ ' ' :: front) ++ (writeClassAttribute value ++ s) := by
      intro value s
      rw [← hfront]
      simp [writeClassAttribute, Text.of_eq_toList]
    have hinScope : (a.inScope hp).write ++ attributesInScope (.text p) s =
        ' ' :: (a.name ++ '=' :: '\x22' :: (valueInScope (.text p) a.value ++
          '\x22' :: attributesInScope (.text p) s)) := by
      rw [PlainAttribute.write_append, PlainAttribute.inScope, if_pos ⟨front, hfront⟩]
    rw [hsplit, attributesInScope_append_class hunmarked,
      attributesInScope_writeClassAttribute hquote, hinScope, hsplit]
  · -- The name ends in another way, so its equals sign belongs to no class attribute.
    have hunmarked : Unmarked (t ++ ' ' :: a.name) :=
      ht.append (Unmarked.cons (by decide) a.unmarked_name)
    have hspace : ' ' ∉ Text.of "class" := by decide +kernel
    have hends : ¬ Text.of "class" <:+ t ++ ' ' :: a.name := fun h =>
      hclass (Text.suffix_of_suffix_append_cons hspace h)
    rw [PlainAttribute.inScope, if_neg hclass, a.write_append,
      show t ++ ' ' :: (a.name ++ '=' :: '\x22' :: (a.value ++ '\x22' :: s)) =
        (t ++ ' ' :: a.name) ++ '=' :: ([] ++ '\x22' :: (a.value ++ '\x22' :: s)) by simp,
      attributesInScope_append_mark hunmarked (by decide) (.inl hends),
      attributesInScope_append_mark unmarked_nil (by decide) (.inr (by decide)),
      attributesInScope_append_mark a.value_plain.unmarked (by decide) (.inr (by decide))]
    simp

/-- Some attributes are put in the scope, whatever stands around them. -/
theorem attributesInScope_flatMap_write (hp : PlainScope p) (attributes : List PlainAttribute)
    (hrest : ∀ t, Unmarked t → attributesInScope (.text p) (t ++ s) = t ++ s')
    (ht : Unmarked t) :
    attributesInScope (.text p) (t ++ (attributes.flatMap PlainAttribute.write ++ s)) =
      t ++ ((attributes.map (PlainAttribute.inScope hp)).flatMap PlainAttribute.write ++ s') := by
  induction attributes generalizing t with
  | nil => exact hrest t ht
  | cons a attributes ih =>
    have hothers := ih unmarked_nil
    rw [List.nil_append, List.nil_append] at hothers
    rw [List.flatMap_cons, List.append_assoc, a.attributesInScope_append hp ht, hothers,
      List.map_cons, List.flatMap_cons, List.append_assoc]

/-- The parts of a document are put in the scope one after the other, whatever stands in front of
them. -/
theorem attributesInScope_append_write (hp : PlainScope p) (parts : List Part) (ht : Unmarked t) :
    attributesInScope (.text p) (t ++ parts.flatMap Part.write) =
      t ++ (parts.map (Part.inScope hp)).flatMap Part.write := by
  induction parts generalizing t with
  | nil => simpa using attributesInScope_unmarked ht
  | cons part parts ih =>
    rw [List.flatMap_cons, List.map_cons, List.flatMap_cons]
    cases part with
    | text text plain =>
      have h := ih (ht.append plain.unmarked)
      rwa [List.append_assoc, List.append_assoc] at h
    | opening tag =>
      have hend : ∀ t, Unmarked t →
          attributesInScope (.text p) (t ++ '>' :: parts.flatMap Part.write) =
            t ++ '>' :: (parts.map (Part.inScope hp)).flatMap Part.write := by
        intro t ht
        simpa using ih (ht.append (t := ['>']) (by decide))
      have h := attributesInScope_flatMap_write hp tag.attributes hend
        (ht.append (Unmarked.cons (c := '<') (by decide) tag.unmarked_name))
      simpa [Part.write, Part.inScope, PlainTag.inScope] using h
    | closing tag =>
      have hclosing : Unmarked (Part.closing tag).write := by
        have hname : Unmarked tag.name := tag.unmarked_name
        exact Unmarked.cons (by decide) (Unmarked.cons (by decide)
          (hname.append (t := ['>']) (by decide)))
      have h := ih (ht.append hclosing)
      rwa [List.append_assoc, List.append_assoc] at h

/-- A document is put in the scope part after part. -/
theorem attributesInScope_write (hp : PlainScope p) (parts : List Part) :
    attributesInScope (.text p) (parts.flatMap Part.write) =
      (parts.map (Part.inScope hp)).flatMap Part.write :=
  attributesInScope_append_write hp parts unmarked_nil

end ClassScope.Html
