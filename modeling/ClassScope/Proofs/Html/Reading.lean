import ClassScope.Html.Outline
import ClassScope.Proofs.Html.Document
import Mathlib.Tactic.Common

/-!
# Reading plain documents

The tags that are read in the text of a plain document are the tags that were written. Main
statements:

- `Html.readOpening_write`, `Html.readClosing_write`: one tag;
- `Html.tags_write`: a document;
- `Html.exists_of_mem_nodesFrom`, `Html.PlainTag.exists_of_get?_table`: where the attributes of an
  element come from.
-/

namespace ClassScope.Html

/-! ## Texts that are kept -/

/-- A text of lower-case ASCII characters is in lower case. -/
theorem lower_eq_self {s : Text} (h : ∀ c ∈ s, isNameChar c = true) : Text.lower s = s := by
  suffices hfrom : ∀ before, Text.lowerFrom before s = s from hfrom []
  induction s with
  | nil => exact fun _ => rfl
  | cons c s ih =>
    obtain ⟨hc, hs⟩ := List.forall_mem_cons.1 h
    have hascii := lt_of_isNameChar hc
    intro before
    have hsigma : ¬ c.toNat = 0x3a3 := by omega
    rw [Text.lowerFrom, if_neg hsigma, Text.lowerChar, if_pos hascii,
      (isNameChar_facts hc).2.2.2.2.2, ih hs, List.singleton_append]

/-- A text without ampersands has no references. -/
theorem unescape_eq_self {s : Text} (h : '&' ∉ s) : unescape s = .ok s := by
  suffices hfuel : ∀ fuel, unescapeFrom fuel s = .ok s from hfuel s.length
  induction s with
  | nil => intro fuel; cases fuel <;> rfl
  | cons c s ih =>
    intro fuel
    obtain ⟨hc, hs⟩ := List.ne_and_not_mem_of_not_mem_cons h
    cases fuel with
    | zero => rfl
    | succ fuel =>
      rw [unescapeFrom, if_neg (Ne.symm hc), ih hs fuel]
      rfl

/-! ## Attributes -/

variable {r s value : Text} {c : Char}

/-- What is no blank and no slash separates no attributes. -/
theorem skipSeparators_cons (hblank : Text.isBlank c = false) (hslash : c ≠ '/') :
    skipSeparators (c :: s) = c :: s := by
  unfold skipSeparators
  split
  · rename_i h
    cases h
  · rename_i h
    exact absurd (List.cons.inj h).1 hslash
  · rename_i h
    obtain ⟨rfl, rfl⟩ := List.cons.inj h
    rw [hblank, beq_eq_false_iff_ne.2 hslash, Bool.or_false, if_neg Bool.false_ne_true]

/-- A space is passed over. -/
theorem skipSeparators_space (s : Text) : skipSeparators (' ' :: s) = skipSeparators s := by
  conv_lhs => unfold skipSeparators
  split
  · rename_i h
    cases h
  · rename_i h
    exact absurd (List.cons.inj h).1 (by decide)
  · rename_i h
    obtain ⟨rfl, rfl⟩ := List.cons.inj h
    rw [if_pos (by decide)]

/-- A value in double quotes is read as far as the closing quote. -/
theorem readValue?_quoted (h : '\x22' ∉ value) :
    readValue? ('=' :: '\x22' :: (value ++ '\x22' :: r)) = some (value, r) := by
  have hvalue : ∀ c ∈ value, (!decide (c = '\x22')) = true := by
    intro c hc
    rw [Bool.not_eq_true', decide_eq_false_iff_not]
    rintro rfl
    exact h hc
  have hequals : Text.isBlank '=' = false := by decide
  have hquote : Text.isBlank '\x22' = false := by decide
  have hvalueQuote : isValueQuote '\x22' = true := by decide
  simp [readValue?, Text.stripLeft, hequals, hquote, hvalueQuote,
    List.takeWhile_append_of_pos hvalue, List.dropWhile_append_of_pos hvalue]

/-- The attributes end with the tag. -/
theorem readAttributes_end (fuel : Nat) (mayStart : Bool) (r : Text) :
    readAttributes fuel mayStart ('>' :: r) = ([], '>' :: r) := by
  have hend : skipSeparators ('>' :: r) = '>' :: r :=
    skipSeparators_cons (by decide) (by decide)
  unfold readAttributes
  rw [hend]
  cases fuel with
  | zero => rfl
  | succ fuel => simp

/-- An attribute is read as it is written. -/
theorem readAttributes_cons (a : PlainAttribute) (fuel : Nat) (mayStart : Bool) (s : Text) :
    readAttributes (fuel + 1) mayStart (a.write ++ s) =
      ((a.name, a.value) :: (readAttributes fuel true s).1, (readAttributes fuel true s).2) := by
  obtain ⟨c, name, hname⟩ := List.exists_cons_of_ne_nil a.name_ne_nil
  have hchars : ∀ d ∈ c :: name, isAttributeNameChar d = true :=
    fun d hd => (isNameChar_facts (a.isNameChar_of_mem (hname ▸ hd))).1
  obtain ⟨hfirst, hothers⟩ := List.forall_mem_cons.1 hchars
  simp only [isAttributeNameChar, Bool.and_eq_true, Bool.not_eq_true', bne_iff_ne] at hfirst
  obtain ⟨⟨⟨hblank, hslash⟩, -⟩, hend⟩ := hfirst
  have hskip : skipSeparators (a.write ++ s) =
      c :: (name ++ '=' :: '\x22' :: (a.value ++ '\x22' :: s)) := by
    rw [a.write_append, skipSeparators_space, hname, List.cons_append,
      skipSeparators_cons hblank hslash]
  have hequals : isAttributeNameChar '=' = false := by decide
  have hshorter : (skipSeparators (a.write ++ s)).length < (a.write ++ s).length := by
    rw [hskip, a.write_append, hname]
    simp
  rw [hskip] at hshorter
  conv_lhs => unfold readAttributes
  simp only [hskip, List.takeWhile_append_of_pos hothers, List.dropWhile_append_of_pos hothers,
    List.takeWhile_cons_of_neg (Bool.eq_false_iff.1 hequals),
    List.dropWhile_cons_of_neg (Bool.eq_false_iff.1 hequals), List.append_nil,
    readValue?_quoted (a.not_mem_value (c := '\x22') (by decide))]
  rw [decide_eq_true hshorter, if_pos (by simp [hslash, hend]), ← hname]

/-- Some attributes are read as they are written, as far as the end of the tag. -/
theorem readAttributes_write (attributes : List PlainAttribute) {fuel : Nat} (mayStart : Bool)
    (hfuel : attributes.length ≤ fuel) (r : Text) :
    readAttributes fuel mayStart (attributes.flatMap PlainAttribute.write ++ '>' :: r) =
      (attributes.map fun a => (a.name, a.value), '>' :: r) := by
  induction attributes generalizing fuel mayStart with
  | nil => exact readAttributes_end fuel mayStart r
  | cons a attributes ih =>
    obtain ⟨fuel, rfl⟩ := Nat.exists_eq_add_of_lt (Nat.lt_of_lt_of_le (Nat.succ_pos _) hfuel)
    rw [Nat.zero_add, List.flatMap_cons, List.append_assoc, readAttributes_cons,
      ih true (by simpa using hfuel), List.map_cons]

/-- The attributes of a tag by their names; the last of several with one name counts. -/
def PlainTag.table (tag : PlainTag) : List (Text × Text) :=
  tag.attributes.foldl (fun table a => Table.put a.name a.value table) []

/-- The names and the values mean what they say. -/
theorem resolveAttributes_write (tag : PlainTag) :
    resolveAttributes (tag.attributes.map fun a => (a.name, a.value)) = .ok tag.table := by
  suffices h : ∀ (attributes : List PlainAttribute) (table : List (Text × Text)),
      List.foldlM (fun resolved a => do
        return Table.put (Text.lower a.1) (← unescape a.2) resolved) table
        (attributes.map fun a => (a.name, a.value)) =
      (.ok (attributes.foldl (fun table a => Table.put a.name a.value table) table) :
        Except TooManyDigits _) from h tag.attributes []
  intro attributes
  induction attributes with
  | nil => exact fun _ => rfl
  | cons a attributes ih =>
    intro table
    rw [List.map_cons, List.foldlM_cons, List.foldl_cons, ← ih]
    simp only [lower_eq_self fun _ => a.isNameChar_of_mem,
      unescape_eq_self (a.not_mem_value (c := '&') (by decide))]
    rfl

/-- There are not more attributes than characters. -/
theorem length_le_length_write (attributes : List PlainAttribute) :
    attributes.length ≤ (attributes.flatMap PlainAttribute.write).length := by
  induction attributes with
  | nil => exact Nat.le_refl _
  | cons a attributes ih =>
    rw [List.flatMap_cons, List.length_append, PlainAttribute.write, List.length_cons,
      List.length_cons]
    omega

/-! ## Tags -/

/-- The tag that is read where an element starts. -/
def PlainTag.opening (tag : PlainTag) : OpeningTag := ⟨tag.name, tag.table, false⟩

theorem PlainTag.name_lower (tag : PlainTag) : Text.lower tag.name = tag.name :=
  lower_eq_self fun _ hc => isNameChar_of_isLowerLetter (tag.isLowerLetter_of_mem hc)

/-- The start of an element is read as it is written. -/
theorem readOpening_write (tag : PlainTag) (r : Text) :
    readOpening (tag.name ++ (tag.attributes.flatMap PlainAttribute.write ++ '>' :: r)) =
      .ok (.tag tag.opening r) := by
  have hname : ∀ c ∈ tag.name, isTagNameChar c = true := fun c hc =>
    (isNameChar_facts (isNameChar_of_isLowerLetter (tag.isLowerLetter_of_mem hc))).2.1
  -- The name ends at the space in front of the first attribute, or at the end of the tag.
  obtain ⟨c, s, hs, hc⟩ : ∃ c s,
      tag.attributes.flatMap PlainAttribute.write ++ '>' :: r = c :: s ∧
        isTagNameChar c = false := by
    cases tag.attributes with
    | nil => exact ⟨'>', r, rfl, by decide⟩
    | cons a attributes =>
      exact ⟨' ', _, by rw [List.flatMap_cons, List.append_assoc, a.write_append], by decide⟩
  have htake : (tag.name ++ (tag.attributes.flatMap PlainAttribute.write ++ '>' :: r)).takeWhile
      isTagNameChar = tag.name := by
    rw [hs, List.takeWhile_append_of_pos hname, List.takeWhile_cons_of_neg (by simp [hc]),
      List.append_nil]
  have hdrop : (tag.name ++ (tag.attributes.flatMap PlainAttribute.write ++ '>' :: r)).dropWhile
      isTagNameChar = tag.attributes.flatMap PlainAttribute.write ++ '>' :: r := by
    rw [hs, List.dropWhile_append_of_pos hname, List.dropWhile_cons_of_neg (by simp [hc])]
  have hfuel : tag.attributes.length ≤
      (tag.attributes.flatMap PlainAttribute.write ++ '>' :: r).length :=
    Nat.le_trans (length_le_length_write tag.attributes) (by simp)
  unfold readOpening
  simp only [htake, hdrop, readAttributes_write tag.attributes _ hfuel, resolveAttributes_write,
    tag.name_lower]
  rfl

/-- The end of an element is read as it is written. -/
theorem readClosing_write (tag : PlainTag) (r : Text) :
    readClosing (tag.name ++ '>' :: r) = .tag tag.name r := by
  obtain ⟨c, name, hname⟩ := List.exists_cons_of_ne_nil tag.name_ne_nil
  have hchars : ∀ d ∈ c :: name, isNameChar d = true := fun d hd =>
    isNameChar_of_isLowerLetter (tag.isLowerLetter_of_mem (hname ▸ hd))
  have hletter :=
    isAsciiLetter_of_isLowerLetter (tag.isLowerLetter_of_mem (hname ▸ List.mem_cons_self))
  have hclosing : ∀ d ∈ name, isClosingNameChar d = true := fun d hd =>
    (isNameChar_facts (hchars d (List.mem_cons_of_mem c hd))).2.2.1
  have hblank : Text.isBlank c = false := by
    have h := (isNameChar_facts (hchars c List.mem_cons_self)).1
    simp only [isAttributeNameChar, Bool.and_eq_true, Bool.not_eq_true'] at h
    exact h.1.1.1
  have hstrict : readStrictClosing? (tag.name ++ '>' :: r) = some (tag.name, r) := by
    have hend : isClosingNameChar '>' = false := by decide
    have hendBlank : Text.isBlank '>' = false := by decide
    rw [hname]
    simp [readStrictClosing?, Text.stripLeft, hblank, hletter, hend, hendBlank,
      List.takeWhile_append_of_pos hclosing, List.dropWhile_append_of_pos hclosing]
  have hafter : afterEnd? (tag.name ++ '>' :: r) = some r := by
    have hplain : ∀ d ∈ tag.name, decide (d ≠ '>') = true := by
      intro d hd
      rw [decide_eq_true_eq]
      rintro rfl
      exact absurd (tag.isLowerLetter_of_mem hd) (by decide)
    rw [afterEnd?, List.dropWhile_append_of_pos hplain, List.dropWhile_cons_of_neg (by simp)]
  rw [readClosing, hafter, hstrict]
  simp only [tag.name_lower]

/-! ## Documents -/

/-- The tag that is read in a part of a document. -/
def Part.tag? : Part → Option Tag
  | .text _ _ => none
  | .opening tag => some (.opening tag.opening)
  | .closing tag => some (.closing tag.name)

theorem readConstruct_opening (tag : PlainTag) (r : Text) :
    readConstruct (tag.name ++ (tag.attributes.flatMap PlainAttribute.write ++ '>' :: r)) =
      .ok (.tag (.opening tag.opening) r) := by
  obtain ⟨c, name, hname⟩ := List.exists_cons_of_ne_nil tag.name_ne_nil
  have hletter :=
    isAsciiLetter_of_isLowerLetter (tag.isLowerLetter_of_mem (hname ▸ List.mem_cons_self))
  have hread := readOpening_write tag r
  rw [hname, List.cons_append] at hread ⊢
  rw [readConstruct]
  simp only [hletter, if_true, hread]

theorem readConstruct_closing (tag : PlainTag) (r : Text) :
    readConstruct ('/' :: (tag.name ++ '>' :: r)) = .ok (.tag (.closing tag.name) r) := by
  have hletter : Text.isAsciiLetter '/' = false := by decide
  rw [readConstruct]
  simp only [hletter, Bool.false_eq_true, if_false, if_true, readClosing_write]

/-- What is no start of a tag or of a reference is passed over. -/
theorem readTags_cons (hplain : isPlainChar c = true) (fuel : Nat) (last : Bool) (s : Text) :
    readTags (fuel + 1) last (c :: s) = readTags fuel last s := by
  conv_lhs => unfold readTags
  split
  · rename_i hfuel
    cases hfuel
  · rename_i hnil _
    cases hnil
  · rename_i _ hs
    rw [(List.cons.inj hs).1] at hplain
    exact absurd hplain (by decide)
  · rename_i _ hs
    rw [(List.cons.inj hs).1] at hplain
    exact absurd hplain (by decide)
  · rename_i hfuel hs
    rw [Nat.succ.inj hfuel, (List.cons.inj hs).2]

/-- The start of an element whose content is markup is a tag. -/
theorem readTags_opening {tag : OpeningTag}
    (hread : readConstruct s = .ok (.tag (.opening tag) r)) (hraw : tag.name ∉ rawNames)
    (fuel : Nat) (last : Bool) :
    readTags (fuel + 1) last ('<' :: s) = (.opening tag :: ·) <$> readTags fuel last r := by
  conv_lhs => unfold readTags
  simp only [hread]
  rw [if_neg (by simp [hraw])]

/-- The end of an element is a tag. -/
theorem readTags_closing {name : Text} (hread : readConstruct s = .ok (.tag (.closing name) r))
    (fuel : Nat) (last : Bool) :
    readTags (fuel + 1) last ('<' :: s) = (.closing name :: ·) <$> readTags fuel last r := by
  conv_lhs => unfold readTags
  simp only [hread]

/-- A text that means nothing to markup is passed over. -/
theorem exists_readTags_append {t : Text} (ht : Plain t) {fuel : Nat} (last : Bool)
    (hfuel : (t ++ s).length ≤ fuel) :
    ∃ left, s.length ≤ left ∧ readTags fuel last (t ++ s) = readTags left last s := by
  induction t generalizing fuel with
  | nil => exact ⟨fuel, hfuel, rfl⟩
  | cons c t ih =>
    obtain ⟨hc, ht⟩ := List.forall_mem_cons.1 ht
    obtain ⟨fuel, rfl⟩ := Nat.exists_eq_add_of_lt (Nat.lt_of_lt_of_le (Nat.succ_pos _) hfuel)
    have hrest : (t ++ s).length ≤ fuel := by simpa using hfuel
    obtain ⟨left, hleft, hread⟩ := ih ht hrest
    exact ⟨left, hleft, by rw [Nat.zero_add, List.cons_append, readTags_cons hc, hread]⟩

/-- The tags of some parts are read as they are written. -/
theorem readTags_write (parts : List Part) {fuel : Nat} (last : Bool)
    (hfuel : (parts.flatMap Part.write).length ≤ fuel) :
    readTags fuel last (parts.flatMap Part.write) = .ok (parts.filterMap Part.tag?) := by
  induction parts generalizing fuel with
  | nil => cases fuel <;> rfl
  | cons part parts ih =>
    rw [List.flatMap_cons] at hfuel ⊢
    cases part with
    | text t plain =>
      obtain ⟨left, hleft, hread⟩ := exists_readTags_append plain last hfuel
      exact hread.trans (ih hleft)
    | opening tag =>
      obtain ⟨fuel, rfl⟩ := Nat.exists_eq_add_of_lt (Nat.lt_of_lt_of_le (Nat.succ_pos _) hfuel)
      have hrest : (parts.flatMap Part.write).length ≤ fuel := by
        have hpart : 0 < (Part.opening tag).write.length := Nat.succ_pos _
        rw [List.length_append] at hfuel
        omega
      have hwrite : (Part.opening tag).write ++ parts.flatMap Part.write =
          '<' :: (tag.name ++ (tag.attributes.flatMap PlainAttribute.write ++
            '>' :: parts.flatMap Part.write)) := by
        simp [Part.write]
      rw [Nat.zero_add, hwrite, readTags_opening (readConstruct_opening tag _) tag.name_not_raw,
        ih hrest]
      rfl
    | closing tag =>
      obtain ⟨fuel, rfl⟩ := Nat.exists_eq_add_of_lt (Nat.lt_of_lt_of_le (Nat.succ_pos _) hfuel)
      have hrest : (parts.flatMap Part.write).length ≤ fuel := by
        have hpart : 0 < (Part.closing tag).write.length := Nat.succ_pos _
        rw [List.length_append] at hfuel
        omega
      have hwrite : (Part.closing tag).write ++ parts.flatMap Part.write =
          '<' :: '/' :: (tag.name ++ '>' :: parts.flatMap Part.write) := by
        simp [Part.write]
      rw [Nat.zero_add, hwrite, readTags_closing (readConstruct_closing tag _), ih hrest]
      rfl

/-- The tags of a document are read as they are written. -/
theorem tags_write (parts : List Part) :
    tags (parts.flatMap Part.write) = .ok (parts.filterMap Part.tag?) :=
  readTags_write parts false (Nat.le_succ _)

/-- A value that is found under a name is that of an attribute with this name. -/
theorem PlainTag.exists_of_get?_table {tag : PlainTag} {name : Text}
    (h : Table.get? tag.table name = some value) :
    ∃ a ∈ tag.attributes, a.name = name ∧ a.value = value := by
  suffices hfold : ∀ (attributes : List PlainAttribute) (table : List (Text × Text)),
      Table.get? (attributes.foldl (fun table a => Table.put a.name a.value table) table) name =
        some value →
      (∃ a ∈ attributes, a.name = name ∧ a.value = value) ∨ Table.get? table name = some value from
    (hfold tag.attributes [] h).resolve_right (by simp)
  intro attributes
  induction attributes with
  | nil => exact fun table htable => .inr htable
  | cons a attributes ih =>
    intro table htable
    rcases ih _ htable with ⟨b, hb, hsame⟩ | hput
    · exact .inl ⟨b, List.mem_cons_of_mem a hb, hsame⟩
    · by_cases hname : name = a.name
      · rw [hname, Table.get?_put_self] at hput
        exact .inl ⟨a, List.mem_cons_self, hname.symm, Option.some.inj hput⟩
      · rw [Table.get?_put_of_ne _ _ hname] at hput
        exact .inr hput

/-- The attributes of an element are those of its tag. -/
theorem exists_of_mem_nodesFrom {line : List Element} {tags : List Tag} {node : Node}
    (h : node ∈ nodesFrom line tags) :
    ∃ tag, Tag.opening tag ∈ tags ∧ node.attributes = tag.attributes := by
  induction tags generalizing line with
  | nil => cases h
  | cons tag tags ih =>
    cases tag with
    | opening tag =>
      rcases List.mem_cons.1 h with rfl | h
      · exact ⟨tag, List.mem_cons_self, rfl⟩
      · obtain ⟨other, hother, hattributes⟩ := ih h
        exact ⟨other, List.mem_cons_of_mem _ hother, hattributes⟩
    | closing name =>
      obtain ⟨other, hother, hattributes⟩ := ih h
      exact ⟨other, List.mem_cons_of_mem _ hother, hattributes⟩

end ClassScope.Html
