import ClassScope.Html.Reader
import ClassScope.Proofs.Outcome
import Mathlib.Tactic.Common

/-!
# Documents that are accepted

A document is rejected for two things only: for the start of a marked section, and for a number of
too many digits. Every reader leaves an end of the text that it was given, so in a document without
either no reader meets one. Main statements:

- `Html.readAttributes_suffix`, `Html.readClosing_suffix`: what the readers of tags leave;
- `Html.Harmless`, `Html.Harmless.exists_readConstruct`: what is at a `<` can be read;
- `Html.Harmless.accepted`: the document can be read.
-/

namespace ClassScope.Html

variable {s r value : Text} {c : Char} {fuel : Nat}

/-! ## What readers leave -/

theorem after?_suffix {head : Text} (h : Text.after? head s = some r) : r <:+ s :=
  ⟨head, (Text.after?_eq_some_iff.1 h).symm⟩

theorem stripLeft_suffix (s : Text) : Text.stripLeft s <:+ s := List.dropWhile_suffix _

theorem afterEnd?_suffix (h : afterEnd? s = some r) : r <:+ s := by
  unfold afterEnd? at h
  split at h
  · cases h
  · rename_i d r' hr'
    cases h
    exact (List.suffix_cons d r).trans (hr' ▸ List.dropWhile_suffix _)

theorem afterFirst?_suffix {close? : Text → Option Text}
    (hclose : ∀ {s r}, close? s = some r → r <:+ s) (h : afterFirst? close? s = some r) :
    r <:+ s := by
  induction s with
  | nil => cases h
  | cons c s ih =>
    rw [afterFirst?, Option.or_eq_some_iff] at h
    rcases h with h | ⟨-, h⟩
    · exact hclose h
    · exact (ih h).trans (List.suffix_cons c s)

theorem commentEnd?_suffix (h : commentEnd? s = some r) : r <:+ s := by
  unfold commentEnd? at h
  split at h
  · cases h
  · rename_i t ht
    exact (after?_suffix h).trans ((stripLeft_suffix t).trans (after?_suffix ht))

theorem rawEnd?_suffix {name : Text} (h : rawEnd? name s = some r) : r <:+ s := by
  unfold rawEnd? at h
  split at h
  · cases h
  · rename_i t ht
    dsimp only at h
    split at h
    · refine (after?_suffix h).trans ((stripLeft_suffix _).trans ?_)
      exact (List.drop_suffix _ _).trans ((stripLeft_suffix t).trans (after?_suffix ht))
    · cases h

theorem afterIncomplete_suffix (s : Text) : afterIncomplete s <:+ s := by
  unfold afterIncomplete
  split
  · exact afterEnd?_suffix ‹_›
  · split
    · exact List.suffix_refl s
    · exact List.dropWhile_suffix _

theorem skipSeparators_suffix (s : Text) : skipSeparators s <:+ s := by
  fun_induction skipSeparators s with
  | case1 => exact List.suffix_refl _
  | case2 s => exact List.suffix_refl _
  | case3 c s _ _ ih => exact ih.trans (List.suffix_cons c s)
  | case4 c s => exact List.suffix_refl _

/-- A value without quotes stands at the front of a text. -/
theorem bare_within (s : Text) : s.takeWhile isBareChar <:+: s ∧ s.dropWhile isBareChar <:+ s :=
  ⟨(List.takeWhile_prefix _).isInfix, List.dropWhile_suffix _⟩

/-- The last of some equals signs with what is behind them. -/
theorem cons_suffix_of_signs (hsigns : s.takeWhile (· == '=') ≠ []) :
    '=' :: s.dropWhile (· == '=') <:+ s := by
  obtain ⟨signs, sign, hlast⟩ := (List.eq_nil_or_concat _).resolve_left hsigns
  have hsign : sign = '=' := by
    have hmem : sign ∈ s.takeWhile (· == '=') := by simp [hlast]
    simpa using List.all_eq_true.1 List.all_takeWhile sign hmem
  have hcut := List.takeWhile_append_dropWhile (p := (· == '=')) (l := s)
  rw [hlast, hsign, List.concat_append] at hcut
  exact ⟨signs, hcut⟩

/-- The value of an attribute stands in the text, and the text goes on behind it. -/
theorem readValue?_infix (h : readValue? s = some (value, r)) : value <:+: s ∧ r <:+ s := by
  have hfront := stripLeft_suffix s
  unfold readValue? at h
  generalize Text.stripLeft s = t at h hfront
  have hbehind : t.dropWhile (· == '=') <:+ t := List.dropWhile_suffix _
  have hvalue := stripLeft_suffix (t.dropWhile (· == '='))
  have hall := (hvalue.trans hbehind).trans hfront
  have within : ∀ {u v w : Text}, u <:+: w ∧ v <:+ w → w <:+ s → u <:+: s ∧ v <:+ s :=
    fun h hw => ⟨h.1.trans hw.isInfix, h.2.trans hw⟩
  dsimp only at h
  split at h
  · cases h
  · rename_i hsigns
    split at h
    · cases h
      exact ⟨List.nil_infix, List.nil_suffix⟩
    · rename_i c u hu
      split at h
      · split at h
        · rename_i d v hv
          cases h
          -- The value goes up to the next quote.
          have hclosed : u <:+ s := (List.suffix_cons c u).trans (hu ▸ hall)
          refine within ⟨(List.takeWhile_prefix _).isInfix, ?_⟩ hclosed
          exact (List.suffix_cons d r).trans (hv ▸ List.dropWhile_suffix _)
        · split at h
          · cases h
            exact ⟨List.nil_infix, hall⟩
          · split at h
            · rename_i hlength _
              cases h
              -- Nothing is between the signs and the quote.
              have hwhole : Text.stripLeft (t.dropWhile (· == '=')) = t.dropWhile (· == '=') :=
                hvalue.eq_of_length_le (by omega)
              refine within (bare_within _) ?_
              rw [hwhole]
              exact (cons_suffix_of_signs hsigns).trans hfront
            · cases h
      · cases h
        exact within (bare_within _) hall

/-- The values of attributes stand in the text, and the text goes on behind them. -/
theorem readAttributes_suffix (fuel : Nat) (mayStart : Bool) (s : Text) :
    (readAttributes fuel mayStart s).2 <:+ s ∧
      ∀ a ∈ (readAttributes fuel mayStart s).1, a.2 <:+: s := by
  induction fuel generalizing mayStart s with
  | zero =>
    unfold readAttributes
    exact ⟨skipSeparators_suffix s, by simp⟩
  | succ fuel ih =>
    have hfront := skipSeparators_suffix s
    unfold readAttributes
    dsimp only
    split
    · -- There is a name, and what is behind it is an end of the text.
      rename_i fuel' c t hfuel ht
      cases hfuel
      have htail : t.dropWhile isAttributeNameChar <:+ s :=
        (List.dropWhile_suffix _).trans ((List.suffix_cons c t).trans (ht ▸ hfront))
      split
      · split
        · rename_i value r hvalue
          obtain ⟨hwithin, hsuffix⟩ := readValue?_infix hvalue
          obtain ⟨hrest, hothers⟩ := ih true r
          have hr : r <:+ s := hsuffix.trans htail
          refine ⟨hrest.trans hr, List.forall_mem_cons.2 ⟨hwithin.trans htail.isInfix, ?_⟩⟩
          exact fun a ha => (hothers a ha).trans hr.isInfix
        · obtain ⟨hrest, hothers⟩ := ih _ (t.dropWhile isAttributeNameChar)
          refine ⟨hrest.trans htail, List.forall_mem_cons.2 ⟨List.nil_infix, ?_⟩⟩
          exact fun a ha => (hothers a ha).trans htail.isInfix
      · exact ⟨ht ▸ hfront, by simp⟩
    · exact ⟨hfront, by simp⟩

/-- The text behind a closing tag. -/
def Closing.rest? : Closing → Option Text
  | .tag _ r | .skipped r => some r
  | .incomplete => none

theorem readStrictClosing?_suffix {name : Text} (h : readStrictClosing? s = some (name, r)) :
    r <:+ s := by
  have hfront := stripLeft_suffix s
  unfold readStrictClosing? at h
  split at h
  · cases h
  · rename_i c t ht
    split at h
    · split at h
      · rename_i r' hr'
        cases h
        have hend : '>' :: r <:+ t := hr' ▸ (stripLeft_suffix _).trans (List.dropWhile_suffix _)
        have hr : r <:+ t := (List.suffix_cons '>' r).trans hend
        exact hr.trans ((List.suffix_cons c t).trans (ht ▸ hfront))
      · cases h
    · cases h

theorem readClosing_suffix (h : (readClosing s).rest? = some r) : r <:+ s := by
  unfold readClosing at h
  split at h
  · cases h
  · rename_i rest hrest
    split at h
    · cases h
      exact readStrictClosing?_suffix ‹_›
    · split at h
      · split at h
        · cases h
          exact (afterEnd?_suffix ‹_›).trans (List.dropWhile_suffix _)
        · cases h
      · cases h
        exact afterEnd?_suffix hrest

/-- The text behind an opening tag. -/
def Opening.rest? : Opening → Option Text
  | .tag _ r | .text r => some r
  | .incomplete => none

/-- The text behind what stands at a `<`. -/
def Construct.rest? : Construct → Option Text
  | .tag _ r | .other r => some r
  | .incomplete => none

/-! ## Numbers that are not too long -/

/-- There are no more digits in a row than a number may have. -/
def ShortNumbers (s : Text) : Prop :=
  ∀ digits, digits <:+: s → (∀ c ∈ digits, Text.isAsciiDigit c = true) → digits.length ≤ digitLimit

theorem ShortNumbers.of_infix {t : Text} (h : ShortNumbers s) (ht : t <:+: s) : ShortNumbers t :=
  fun digits hdigits => h digits (hdigits.trans ht)

/-- The digits at the front of a text make a number. -/
theorem ShortNumbers.exists_readWholeNumber (h : ShortNumbers s) :
    ∃ n, readWholeNumber (s.takeWhile Text.isAsciiDigit) = .ok n := by
  have hlength := h _ (List.takeWhile_prefix _).isInfix fun c hc =>
    List.all_eq_true.1 List.all_takeWhile c hc
  exact ⟨_, if_neg (Nat.not_lt.2 hlength)⟩

/-- The text behind a number is without the semicolon that ends it. -/
theorem afterSemicolon_suffix (s : Text) : (if s.head? = some ';' then s.drop 1 else s) <:+ s := by
  split
  · exact List.drop_suffix 1 s
  · exact List.suffix_refl s

theorem ShortNumbers.readNumbered?_eq (h : ShortNumbers s) {replaced : Replaced}
    (hread : readNumbered? s = some replaced) :
    ∃ characters r, replaced = .ok (characters, r) ∧ r <:+ s := by
  obtain ⟨n, hn⟩ := h.exists_readWholeNumber
  unfold readNumbered? at hread
  dsimp only at hread
  split at hread
  · cases hread
  · rename_i c t
    split at hread
    · -- A number with hexadecimal digits may be as long as it likes.
      split at hread
      · cases hread
      · cases hread
        refine ⟨_, _, rfl, (afterSemicolon_suffix _).trans ?_⟩
        exact (List.dropWhile_suffix _).trans (List.suffix_cons c t)
    · split at hread
      · cases hread
      · cases hread
        rw [hn]
        exact ⟨_, _, rfl, (afterSemicolon_suffix _).trans (List.dropWhile_suffix _)⟩

/-- A reference in a text without long numbers can be replaced, and the text goes on behind it. -/
theorem ShortNumbers.readReference?_eq (h : ShortNumbers s) {replaced : Replaced}
    (hread : readReference? s = some replaced) :
    ∃ characters r, replaced = .ok (characters, r) ∧ r <:+ s := by
  unfold readReference? at hread
  split at hread
  · rename_i t
    have ht := List.suffix_cons '#' t
    obtain ⟨characters, r, hr, hsuffix⟩ := (h.of_infix ht.isInfix).readNumbered?_eq hread
    exact ⟨characters, r, hr, hsuffix.trans ht⟩
  · dsimp only at hread
    split at hread
    · cases hread
    · split at hread
      · rename_i r hr
        cases hread
        exact ⟨_, r, rfl, (List.suffix_cons ';' r).trans (hr ▸ List.drop_suffix _ s)⟩
      · cases hread
        exact ⟨_, _, rfl, List.drop_suffix _ s⟩

theorem ShortNumbers.exists_unescapeFrom (h : ShortNumbers s) (fuel : Nat) :
    ∃ t, unescapeFrom fuel s = .ok t := by
  induction fuel generalizing s with
  | zero => exact ⟨s, by rw [unescapeFrom]⟩
  | succ fuel ih =>
    cases s with
    | nil => exact ⟨[], by rw [unescapeFrom]; simp⟩
    | cons c s =>
      have hs : ShortNumbers s := h.of_infix (List.suffix_cons c s).isInfix
      obtain ⟨t, ht⟩ := ih hs
      rw [unescapeFrom]
      split
      · split
        · rename_i replaced hread
          obtain ⟨characters, r, rfl, hr⟩ := hs.readReference?_eq hread
          obtain ⟨t, ht⟩ := ih (hs.of_infix hr.isInfix)
          exact ⟨characters ++ t, by simp [ht]⟩
        · exact ⟨c :: t, by rw [ht]; rfl⟩
      · exact ⟨c :: t, by rw [ht]; rfl⟩

/-- The references in the values of attributes can be replaced. -/
theorem exists_resolveAttributes {attributes : List (Text × Text)}
    (h : ∀ a ∈ attributes, ShortNumbers a.2) :
    ∃ resolved, resolveAttributes attributes = .ok resolved := by
  rw [resolveAttributes]
  generalize ([] : List (Text × Text)) = done
  induction attributes generalizing done with
  | nil => exact ⟨done, rfl⟩
  | cons a attributes ih =>
    obtain ⟨ha, hattributes⟩ := List.forall_mem_cons.1 h
    obtain ⟨value, hvalue⟩ := ha.exists_unescapeFrom a.2.length
    obtain ⟨resolved, hresolved⟩ := ih hattributes (Table.put (Text.lower a.1) value done)
    refine ⟨resolved, ?_⟩
    simp only [List.foldlM_cons, unescape, hvalue, ok_bind]
    exact hresolved

/-- An opening tag can be read, and the text goes on behind it. -/
theorem ShortNumbers.exists_readOpening (h : ShortNumbers s) :
    ∃ opening, readOpening s = .ok opening ∧ ∀ r, opening.rest? = some r → r <:+ s := by
  have hbehind : s.dropWhile isTagNameChar <:+ s := List.dropWhile_suffix _
  unfold readOpening
  dsimp only
  obtain ⟨hrest, hvalues⟩ := readAttributes_suffix (s.dropWhile isTagNameChar).length
    ((s.takeWhile isTagNameChar).getLast?.any endsName) (s.dropWhile isTagNameChar)
  generalize readAttributes _ _ _ = read at hrest hvalues ⊢
  obtain ⟨attributes, rest⟩ := read
  obtain ⟨resolved, hresolved⟩ := exists_resolveAttributes fun a ha =>
    h.of_infix ((hvalues a ha).trans hbehind.isInfix)
  have hrest : rest <:+ s := hrest.trans hbehind
  dsimp only
  rw [hresolved]
  split
  · rename_i r _
    exact ⟨_, rfl, fun t ht => by cases ht; exact (List.suffix_cons '>' r).trans hrest⟩
  · rename_i r _
    have hr := (List.suffix_cons '>' r).trans (List.suffix_cons '/' ('>' :: r))
    exact ⟨_, rfl, fun t ht => by cases ht; exact hr.trans hrest⟩
  · exact ⟨_, rfl, nofun⟩
  · split
    · exact ⟨_, rfl, nofun⟩
    · exact ⟨_, rfl, fun t ht => by cases ht; exact hrest⟩

/-! ## Documents -/

/-- No marked section starts in the text, and no number in it is too long. -/
structure Harmless (s : Text) : Prop where
  /-- No marked section starts. -/
  sections : ¬ Text.of "<![" <:+: s
  /-- No number is too long. -/
  numbers : ShortNumbers s

namespace Harmless

theorem of_suffix {t : Text} (h : Harmless s) (ht : t <:+ s) : Harmless t :=
  ⟨fun hsection => h.sections (hsection.trans ht.isInfix), h.numbers.of_infix ht.isInfix⟩

/-- A declaration that is no marked section can be read. -/
theorem exists_afterDeclaration? (h : Harmless ('<' :: '!' :: s)) :
    ∃ rest, afterDeclaration? s = .ok rest ∧ ∀ r, rest = some r → r <:+ s := by
  unfold afterDeclaration?
  split
  · rename_i t
    have ht : t <:+ '-' :: '-' :: t :=
      (List.suffix_cons '-' t).trans (List.suffix_cons '-' ('-' :: t))
    exact ⟨_, rfl, fun r hr => (afterFirst?_suffix commentEnd?_suffix hr).trans ht⟩
  · rename_i t
    have hsection : Text.of "<![" <:+: '<' :: '!' :: '[' :: t := by
      rw [Text.of_eq_toList]
      exact ⟨[], t, rfl⟩
    exact absurd hsection h.sections
  · split
    · exact ⟨_, rfl, fun r hr => (afterEnd?_suffix hr).trans (List.drop_suffix 7 s)⟩
    · exact ⟨_, rfl, fun r hr => afterEnd?_suffix hr⟩

/-- What stands at a `<` can be read, and the text goes on behind it. -/
theorem exists_readConstruct (h : Harmless ('<' :: s)) :
    ∃ construct, readConstruct s = .ok construct ∧ ∀ r, construct.rest? = some r → r <:+ s := by
  unfold readConstruct
  dsimp only
  split
  · exact ⟨_, rfl, nofun⟩
  · rename_i c t
    have ht := List.suffix_cons c t
    have hnumbers := (h.of_suffix (List.suffix_cons '<' (c :: t))).numbers
    split
    · obtain ⟨opening, hopening, hrest⟩ := hnumbers.exists_readOpening
      rw [hopening]
      cases opening with
      | tag tag r => exact ⟨_, rfl, hrest⟩
      | incomplete => exact ⟨_, rfl, nofun⟩
      | text r => exact ⟨_, rfl, hrest⟩
    · split
      · have hrest (r : Text) (hr : (readClosing t).rest? = some r) : r <:+ c :: t :=
          (readClosing_suffix hr).trans ht
        generalize readClosing t = closing at hrest
        cases closing with
        | tag name r => exact ⟨_, rfl, hrest⟩
        | skipped r => exact ⟨_, rfl, hrest⟩
        | incomplete => exact ⟨_, rfl, nofun⟩
      · split
        · rename_i hmark
          subst hmark
          obtain ⟨rest, hdeclaration, hrest⟩ := h.exists_afterDeclaration?
          rw [hdeclaration]
          cases rest with
          | none => exact ⟨_, rfl, nofun⟩
          | some r' => exact ⟨_, rfl, fun r hr => (hrest r hr).trans ht⟩
        · split
          · have hrest (r : Text) (hr : afterEnd? t = some r) : r <:+ c :: t :=
              (afterEnd?_suffix hr).trans ht
            generalize afterEnd? t = rest at hrest
            cases rest with
            | none => exact ⟨_, rfl, nofun⟩
            | some r' => exact ⟨_, rfl, hrest⟩
          · -- The `<` is text.
            refine ⟨_, rfl, fun r hr => ?_⟩
            cases hr
            exact List.suffix_refl _

/-- What starts with a `<` can be read if all that comes behind it can be. -/
theorem exists_readTags_construct (h : Harmless ('<' :: s)) (last : Bool)
    (hrest : ∀ {r : Text}, r <:+ '<' :: s → ∀ last, ∃ all, readTags fuel last r = .ok all) :
    ∃ all, readTags (fuel + 1) last ('<' :: s) = .ok all := by
  have hs := List.suffix_cons '<' s
  obtain ⟨construct, hconstruct, hbehind⟩ := h.exists_readConstruct
  -- Reading goes on in what the construct leaves.
  have go {r u : Text} (hr : construct.rest? = some r) (hu : u <:+ r) :
      ∃ all, readTags fuel last u = .ok all :=
    hrest (hu.trans ((hbehind r hr).trans hs)) last
  rw [readTags, hconstruct]
  cases construct with
  | tag tag r =>
    cases tag with
    | opening tag =>
      dsimp only
      split
      · -- The text of a script or a style goes up to its closing tag.
        split
        · rename_i r' hr'
          obtain ⟨all, hall⟩ := go rfl (afterFirst?_suffix rawEnd?_suffix hr')
          exact ⟨.opening tag :: .closing tag.name :: all, by rw [hall]; rfl⟩
        · exact ⟨[.opening tag], rfl⟩
      · obtain ⟨all, hall⟩ := go rfl (List.suffix_refl r)
        exact ⟨.opening tag :: all, by rw [hall]; rfl⟩
    | closing name =>
      obtain ⟨all, hall⟩ := go rfl (List.suffix_refl r)
      exact ⟨.closing name :: all, by dsimp only; rw [hall]; rfl⟩
  | other r => exact go rfl (List.suffix_refl r)
  | incomplete =>
    dsimp only
    split
    · exact hrest ((afterIncomplete_suffix s).trans hs) true
    · -- The second pass starts at the same place.
      exact hrest (List.suffix_refl _) true

/-- What starts as a numeric reference can be read if all that comes behind it can be. -/
theorem exists_readTags_number (h : Harmless ('&' :: '#' :: s)) (last : Bool)
    (hrest : ∀ {r : Text}, r <:+ '&' :: '#' :: s → ∀ last, ∃ all, readTags fuel last r = .ok all) :
    ∃ all, readTags (fuel + 1) last ('&' :: '#' :: s) = .ok all := by
  have hs := (List.suffix_cons '#' s).trans (List.suffix_cons '&' ('#' :: s))
  obtain ⟨n, hn⟩ := (h.of_suffix hs).numbers.exists_readWholeNumber
  have hnumber : checkReference s = .ok () := by rw [checkReference, hn]
  rw [readTags, hnumber]
  split
  · exact hrest hs last
  · split
    · exact ⟨[], rfl⟩
    · split
      · exact hrest hs true
      · exact hrest (List.suffix_refl _) true

/-- A text without marked sections and long numbers can be read to its end. -/
theorem exists_readTags (h : Harmless s) (fuel : Nat) (last : Bool) :
    ∃ all, readTags fuel last s = .ok all := by
  induction fuel generalizing last s with
  | zero => exact ⟨[], by rw [readTags]⟩
  | succ fuel ih =>
    -- Every step leaves an end of the text, and that is harmless.
    have hrest {r : Text} (hr : r <:+ s) (last : Bool) : ∃ all, readTags fuel last r = .ok all :=
      ih (h.of_suffix hr) last
    unfold readTags
    split
    · exact ⟨[], rfl⟩
    · exact ⟨[], rfl⟩
    · rename_i hfuel
      cases hfuel
      exact h.exists_readTags_construct _ hrest
    · rename_i hfuel
      cases hfuel
      exact h.exists_readTags_number _ hrest
    · rename_i hfuel
      cases hfuel
      exact hrest (List.suffix_cons _ _) _

/-- The document can be read. -/
theorem accepted (h : Harmless s) : ∃ all, tags s = .ok all := h.exists_readTags _ _

end Harmless

end ClassScope.Html
