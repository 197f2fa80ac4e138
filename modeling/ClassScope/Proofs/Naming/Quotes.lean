import ClassScope.Naming.Script
import Mathlib.Tactic.Common

/-!
# Quotes and identifiers

What the readers of identifiers, selector literals and arguments accept, said without them. All that
is quoted ends at the next quote, so there is one way to cut a text at its first quote
(`Text.append_quote_inj`). Main statements: `readIdentifier?_eq_some_iff`,
`SelectorLiteral.read?_eq_some_iff` and `Argument.read?_eq_some_iff`.
-/

namespace ClassScope

namespace Text

/-! ## Cuts -/

section Cuts

variable {σ : Type} {p : σ → Bool} {s t u v : List σ} {c d : σ}

/-- A text is accepted by `p`, or it can be cut at the first character that is not. -/
theorem all_or_cut (p : σ → Bool) (s : List σ) :
    (∀ c ∈ s, p c = true) ∨ ∃ (t : List σ) (c : σ) (u : List σ),
      s = t ++ c :: u ∧ (∀ d ∈ t, p d = true) ∧ p c = false := by
  induction s with
  | nil => simp
  | cons c s ih =>
    cases hc : p c with
    | false => exact .inr ⟨[], c, s, rfl, by simp, hc⟩
    | true =>
      rcases ih with hs | ⟨t, d, u, rfl, ht, hd⟩
      · exact .inl (List.forall_mem_cons.2 ⟨hc, hs⟩)
      · exact .inr ⟨c :: t, d, u, rfl, List.forall_mem_cons.2 ⟨hc, ht⟩, hd⟩

/-- There is one way to cut a text at the first character that `p` does not accept. -/
theorem append_cons_inj_of (hs : ∀ e ∈ s, p e = true) (ht : ∀ e ∈ t, p e = true)
    (hc : p c = false) (hd : p d = false) (h : s ++ c :: u = t ++ d :: v) :
    s = t ∧ c = d ∧ u = v := by
  have hfront := congrArg (List.takeWhile p) h
  rw [List.takeWhile_append_of_pos hs, List.takeWhile_append_of_pos ht,
    List.takeWhile_cons_of_neg (by simp [hc]), List.takeWhile_cons_of_neg (by simp [hd]),
    List.append_nil, List.append_nil] at hfront
  rw [hfront, List.append_cancel_left_eq] at h
  exact ⟨hfront, List.cons.inj h⟩

/-- There is one way to cut a text at the first place of a character. -/
theorem append_cons_inj [DecidableEq σ] (hs : c ∉ s) (ht : c ∉ t) (h : s ++ c :: u = t ++ c :: v) :
    s = t ∧ u = v := by
  have hother : ∀ r : List σ, c ∉ r → ∀ d ∈ r, (d != c) = true :=
    fun r hr d hd => bne_iff_ne.2 fun hdc => hr (hdc ▸ hd)
  obtain ⟨hfront, -, hrest⟩ :=
    append_cons_inj_of (hother s hs) (hother t ht) (bne_self_eq_false c) (bne_self_eq_false c) h
  exact ⟨hfront, hrest⟩

/-- What starts a text and does not hold a character that stands in it ends before that. -/
theorem prefix_of_append_cons (hs : c ∉ s) (h : s ++ u = t ++ c :: v) : s <+: t := by
  rcases List.append_eq_append_iff.1 h with ⟨w, rfl, -⟩ | ⟨w, rfl, hw⟩
  · exact List.prefix_append s w
  · cases w with
    | nil => simp
    | cons d w =>
      rw [List.cons_append, List.cons.injEq] at hw
      exact absurd (by rw [hw.1]; simp) hs

/-- What ends a text and does not hold a character that stands in it starts behind that. -/
theorem suffix_of_suffix_append_cons (hs : c ∉ s) (h : s <:+ t ++ c :: u) : s <:+ u := by
  rcases List.suffix_or_suffix_of_suffix h (List.suffix_append t (c :: u)) with hsuffix | hsuffix
  · rcases List.suffix_cons_iff.1 hsuffix with rfl | hsuffix
    · exact absurd List.mem_cons_self hs
    · exact hsuffix
  · exact absurd (hsuffix.subset List.mem_cons_self) hs

/-- What stands in a text and does not hold a character of it stands in front of that or behind it.
-/
theorem infix_append_cons_iff (hs : s ≠ []) (hc : c ∉ s) :
    s <:+: t ++ c :: u ↔ s <:+: t ∨ s <:+: u := by
  constructor
  · rintro ⟨front, back, h⟩
    rw [List.append_assoc] at h
    rcases List.append_eq_append_iff.1 h with ⟨w, rfl, hw⟩ | ⟨w, -, hw⟩
    · exact .inl ((prefix_of_append_cons hc hw).isInfix.trans (List.suffix_append front w).isInfix)
    · cases w with
      | nil =>
        -- Then it would start with the character.
        obtain ⟨d, s, rfl⟩ := List.exists_cons_of_ne_nil hs
        exact absurd (List.cons.inj hw).1 fun hcd => hc (hcd ▸ List.mem_cons_self)
      | cons d w =>
        rw [(List.cons.inj hw).2]
        exact .inr ⟨w, back, List.append_assoc w s back⟩
  · rintro (h | h)
    · exact h.trans (List.prefix_append t (c :: u)).isInfix
    · exact h.trans ((List.suffix_cons c u).trans (List.suffix_append t (c :: u))).isInfix

/-- Two characters that stand side by side nowhere in front of a last `d` do so there or not at
all. -/
theorem eq_of_append_pair {c d : σ} (ht : ¬ [c, d] <:+: t) (hu : d ∉ u)
    (h : s ++ c :: d :: v = t ++ d :: u) : v = u := by
  have hsuffix : u <:+ (s ++ [c]) ++ d :: v := ⟨t ++ [d], by simp [h]⟩
  obtain ⟨w, rfl⟩ := suffix_of_suffix_append_cons hu hsuffix
  have hfront : s ++ c :: d :: w = t ++ [d] :=
    List.append_cancel_right (show (s ++ c :: d :: w) ++ u = (t ++ [d]) ++ u by simpa using h)
  rcases List.eq_nil_or_concat w with rfl | ⟨w, e, rfl⟩
  · rfl
  · -- The pair is in front of the last character.
    have hcut : (s ++ [c, d] ++ w) ++ [e] = t ++ [d] := by simpa using hfront
    exact absurd ⟨s, w, (List.append_inj' hcut rfl).1⟩ ht

end Cuts

/-! ## Texts without quotes -/

/-- The text has no quote. -/
def Unquoted (s : Text) : Prop := ∀ c ∈ s, isQuote c = false

instance (s : Text) : Decidable s.Unquoted :=
  decidable_of_iff (s.all (!isQuote ·) = true) (by simp [Unquoted])

variable {s t u v : Text} {q r : Char}

theorem unquoted_nil : Unquoted [] := by
  intro c hc
  cases hc

theorem Unquoted.append (hs : s.Unquoted) (ht : t.Unquoted) : Unquoted (s ++ t) :=
  List.forall_mem_append.2 ⟨hs, ht⟩

theorem Unquoted.of_suffix (h : t.Unquoted) (hsuffix : s <:+ t) : s.Unquoted :=
  fun c hc => h c (hsuffix.subset hc)

/-- Up to the first quote. -/
theorem takeWhile_append_quote (hs : s.Unquoted) (hq : isQuote q = true) :
    (s ++ q :: u).takeWhile (!isQuote ·) = s := by
  rw [List.takeWhile_append_of_pos fun c hc => by rw [hs c hc]; rfl,
    List.takeWhile_cons_of_neg (by simp [hq]), List.append_nil]

/-- From the first quote. -/
theorem dropWhile_append_quote (hs : s.Unquoted) (hq : isQuote q = true) :
    (s ++ q :: u).dropWhile (!isQuote ·) = q :: u := by
  rw [List.dropWhile_append_of_pos fun c hc => by rw [hs c hc]; rfl,
    List.dropWhile_cons_of_neg (by simp [hq])]

/-- There is one way to cut a text at its first quote. -/
theorem append_quote_inj (hs : s.Unquoted) (ht : t.Unquoted) (hq : isQuote q = true)
    (hr : isQuote r = true) (h : s ++ q :: u = t ++ r :: v) : s = t ∧ q = r ∧ u = v :=
  append_cons_inj_of (p := (!isQuote ·)) (fun c hc => by rw [hs c hc]; rfl)
    (fun c hc => by rw [ht c hc]; rfl) (by rw [hq]; rfl) (by rw [hr]; rfl) h

/-- A text has no quote, or it can be cut at its first quote. -/
theorem unquoted_or_cut (s : Text) :
    s.Unquoted ∨ ∃ (t : Text) (q : Char) (u : Text),
      s = t ++ q :: u ∧ t.Unquoted ∧ isQuote q = true := by
  simpa [Unquoted] using all_or_cut (!isQuote ·) s

/-- The text stands between two quotes in another one. -/
def StandsQuoted (value s : Text) : Prop :=
  ∃ u q q' v, s = u ++ q :: (value ++ q' :: v) ∧ isQuote q = true ∧ isQuote q' = true

theorem StandsQuoted.append_left {value : Text} (h : value.StandsQuoted s) (t : Text) :
    value.StandsQuoted (t ++ s) := by
  obtain ⟨u, q, q', v, rfl, hquotes⟩ := h
  exact ⟨t ++ u, q, q', v, (List.append_assoc _ _ _).symm, hquotes⟩

end Text

/-! ## Identifiers -/

/-- A letter, then letters, digits, low lines and hyphens. -/
inductive IsIdentifier : Text → Prop where
  /-- The letter and the others. -/
  | intro {c : Char} {s : Text} (letter : Text.isAsciiLetter c = true)
      (others : ∀ d ∈ s, isIdentifierChar d = true) : IsIdentifier (c :: s)

instance : (s : Text) → Decidable (IsIdentifier s)
  | [] => .isFalse nofun
  | c :: s =>
    decidable_of_iff (Text.isAsciiLetter c = true ∧ s.all isIdentifierChar = true)
      ⟨fun h => .intro h.1 (List.all_eq_true.1 h.2),
        fun ⟨letter, others⟩ => ⟨letter, List.all_eq_true.2 others⟩⟩

/-- A quote stands in no identifier. -/
theorem isQuote_of_isIdentifierChar {c : Char} (h : isIdentifierChar c = true) :
    Text.isQuote c = false := by
  by_contra hquote
  simp only [Bool.not_eq_false, Text.isQuote, Bool.or_eq_true, beq_iff_eq] at hquote
  rcases hquote with (rfl | rfl) | rfl <;> revert h <;> decide

namespace IsIdentifier

variable {name : Text}

theorem chars (h : IsIdentifier name) : ∀ c ∈ name, isIdentifierChar c = true := by
  obtain ⟨letter, others⟩ := h
  intro c hc
  rcases List.mem_cons.1 hc with rfl | hc
  · simp [isIdentifierChar, Text.isAsciiWord, letter]
  · exact others c hc

theorem ne_nil (h : IsIdentifier name) : name ≠ [] := by
  obtain ⟨letter, others⟩ := h
  exact List.cons_ne_nil _ _

theorem unquoted (h : IsIdentifier name) : name.Unquoted :=
  fun c hc => isQuote_of_isIdentifierChar (h.chars c hc)

end IsIdentifier

/-- What is read is the longest identifier at the front. -/
theorem readIdentifier?_eq_some_iff {s name r : Text} :
    readIdentifier? s = some (name, r) ↔
      IsIdentifier name ∧ s = name ++ r ∧ ∀ c ∈ r.head?, isIdentifierChar c = false := by
  cases s with
  | nil =>
    refine iff_of_false (by simp [readIdentifier?]) ?_
    rintro ⟨hname, hs, -⟩
    exact hname.ne_nil (List.append_eq_nil_iff.1 hs.symm).1
  | cons c s =>
    rw [readIdentifier?]
    split
    · rename_i letter
      simp only [Option.some.injEq, Prod.mk.injEq]
      constructor
      · rintro ⟨rfl, rfl⟩
        refine ⟨.intro letter fun d hd => List.all_eq_true.1 List.all_takeWhile d hd, by simp, ?_⟩
        intro d hd
        have hhead := List.head?_dropWhile_not isIdentifierChar s
        rw [hd] at hhead
        simpa using hhead
      · rintro ⟨⟨-, others⟩, hs, hrest⟩
        rw [List.cons_append, List.cons.injEq] at hs
        obtain ⟨rfl, rfl⟩ := hs
        rw [List.takeWhile_append_of_pos others, List.dropWhile_append_of_pos others]
        cases r with
        | nil => simp
        | cons d r => simp [hrest d rfl]
    · rename_i letter
      refine iff_of_false (by simp) ?_
      rintro ⟨⟨hletter, -⟩, hs, -⟩
      rw [(List.cons.inj hs).1] at letter
      exact letter hletter

namespace Script

/-! ## Selector literals -/

/-- What is read is a quoted point and identifier, up to the same quote. -/
theorem SelectorLiteral.read?_eq_some_iff {s r : Text} {l : SelectorLiteral} :
    read? s = some (l, r) ↔
      s = l.write ++ r ∧ Text.isQuote l.quote = true ∧ IsIdentifier l.name := by
  constructor
  · intro h
    have hread : selectorLiteral.read none s = some (l, r) := h
    refine ⟨(selectorLiteral.sound hread).1, ?_⟩
    unfold read? at h
    split at h
    · split at h
      · rename_i hquote
        split at h
        · rename_i hname
          split at h
          · cases h
            exact ⟨hquote, (readIdentifier?_eq_some_iff.1 hname).1⟩
          · cases h
        · cases h
      · cases h
    · cases h
  · rintro ⟨rfl, hquote, hname⟩
    -- The identifier goes up to the quote, which is no character of one.
    have hend : ¬ isIdentifierChar l.quote = true := fun h => by
      rw [isQuote_of_isIdentifierChar h] at hquote
      cases hquote
    have hread : readIdentifier? (l.name ++ l.quote :: r) = some (l.name, l.quote :: r) :=
      readIdentifier?_eq_some_iff.2 ⟨hname, rfl, by simpa using hend⟩
    simp [write, read?, hquote, hread]

/-! ## Arguments -/

namespace Argument

variable {a b : Argument} {s r u : Text}

/-- The argument is a text without quotes between two quotes, and not empty. -/
structure Valid (a : Argument) : Prop where
  /-- It starts with a quote. -/
  opening : Text.isQuote a.opening = true
  /-- There is no quote in it. -/
  value : a.value.Unquoted
  /-- It is not empty. -/
  ne_nil : a.value ≠ []
  /-- It ends with a quote. -/
  closing : Text.isQuote a.closing = true

/-- The text of an argument, with what follows it. -/
theorem write_append (a : Argument) (r : Text) :
    a.write ++ r = a.opening :: (a.value ++ a.closing :: ')' :: r) := by
  simp [write]

/-- What is read is a valid argument. -/
theorem read?_eq_some_iff : read? s = some (a, r) ↔ s = a.write ++ r ∧ a.Valid := by
  constructor
  · intro h
    refine ⟨eq_append_of_read? h, ?_⟩
    unfold read? at h
    split at h
    · rename_i opening s
      simp only at h
      split at h
      · rename_i closing t hdrop
        split at h
        · rename_i hopening
          cases h
          have hclosing := List.head?_dropWhile_not (!Text.isQuote ·) s
          rw [hdrop] at hclosing
          refine ⟨hopening.1, fun c hc => ?_, hopening.2, by simpa using hclosing⟩
          simpa using List.all_eq_true.1 List.all_takeWhile c hc
        · cases h
      · cases h
    · cases h
  · rintro ⟨rfl, ha⟩
    rw [write_append, read?]
    simp only [Text.takeWhile_append_quote ha.value ha.closing,
      Text.dropWhile_append_quote ha.value ha.closing]
    rw [if_pos ⟨ha.opening, ha.ne_nil⟩]

end Argument

end Script

end ClassScope
